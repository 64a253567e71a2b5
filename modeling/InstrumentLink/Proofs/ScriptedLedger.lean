import InstrumentLink.Proofs.ScriptedStream

/-!
# The ledger of a scripted link

Whoever holds a copy of a scripted link refers to the same script and the same input, also
if it is a copy of a copy.  Whatever the copies do in whatever order, every byte that came in
is either still to be read or has gone out once, in the order in which it came; exchanges are
used up from the front of the script, and only by a write that the front one answers.
-/

namespace InstrumentLink.Scripted

open State

/-- Puts bytes into the slots of a buffer, one by one. -/
def overwrite : List UInt8 → List UInt8 → List UInt8
  | _ :: buffer, byte :: bytes => byte :: overwrite buffer bytes
  | buffer, _ => buffer

theorem overwrite_eq {buffer bytes : List UInt8} (hfits : bytes.length ≤ buffer.length) :
    overwrite buffer bytes = bytes ++ buffer.drop bytes.length := by
  induction buffer generalizing bytes with
  | nil => rw [List.eq_nil_of_length_eq_zero (Nat.le_zero.mp hfits)]; rfl
  | cons slot buffer ih =>
      cases bytes with
      | nil => rfl
      | cons byte bytes =>
          rw [overwrite, ih (Nat.le_of_succ_le_succ hfits)]
          rfl

inductive Given where
  | done
  | accepted (count : Nat)
  /-- The number of slots that were filled, and the whole buffer. -/
  | filled (count : Nat) (buffer : List UInt8)
  deriving DecidableEq, Repr

/-- What can be done to a scripted link, each time through one of its copies. -/
inductive Deed where
  | clone (copy : Nat)
  | expect (copy : Nat) (request reply : List UInt8)
  | replyNext (copy : Nat) (reply : List UInt8)
  | push (copy : Nat) (bytes : List UInt8)
  | setChunk (copy : Nat) (size : Nat)
  | refuseOpen (copy : Nat)
  | openLink (copy : Nat) (mode : OpenMode)
  | closeLink (copy : Nat)
  | write (copy : Nat) (bytes : List UInt8) (mode : IoMode)
  | read (copy : Nat) (buffer : List UInt8) (mode : IoMode)
  | flush (copy : Nat)
  deriving DecidableEq, Repr

namespace Deed

def arranged (change : State → State) : LinkM State Given := fun state => .ok .done (change state)

def act : Deed → LinkM State Given
  | clone _ => arranged id
  | expect _ request reply => arranged (·.schedule { request := some request, reply })
  | replyNext _ reply => arranged (·.schedule { request := none, reply })
  | push _ bytes => arranged (·.push bytes)
  | setChunk _ size => arranged (·.setChunk size)
  | refuseOpen _ => arranged fun state => { state with refusesOpen := true }
  | openLink _ mode => do
      let _ ← transport.openLink mode
      return .done
  | closeLink _ => do
      transport.closeLink
      return .done
  | write _ bytes mode => return .accepted (← transport.write bytes mode)
  | read _ buffer mode => do
      let bytes ← transport.read buffer.length mode
      return .filled bytes.length (overwrite buffer bytes)
  | flush _ => do
      transport.flush
      return .done

def copy : Deed → Nat
  | clone copy | expect copy _ _ | replyNext copy _ | push copy _ | setChunk copy _
  | refuseOpen copy | openLink copy _ | closeLink copy | write copy _ _ | read copy _ _
  | flush copy => copy

def scheduled : Deed → List Exchange
  | expect _ request reply => [{ request := some request, reply }]
  | replyNext _ reply => [{ request := none, reply }]
  | _ => []

def pushed : Deed → List UInt8
  | push _ bytes => bytes
  | _ => []

def writes : Deed → List (List UInt8)
  | write _ bytes _ => [bytes]
  | _ => []

def chunk : Deed → Option Nat
  | setChunk _ size => some size
  | _ => none

def discards : Deed → Bool
  | flush _ => true
  | _ => false

end Deed

/-- A deed, what it gave, and the states around it. -/
structure Entry where
  before : State
  deed : Deed
  result : Except LinkError Given
  after : State

namespace Entry

def ofDeed (before : State) (deed : Deed) : Entry :=
  { before, deed
    result := (deed.act.outcome before).1
    after := (deed.act.outcome before).2 }

def returned (entry : Entry) : List UInt8 :=
  match entry.result with
  | .ok (.filled count buffer) => buffer.take count
  | _ => []

def used (entry : Entry) : List Exchange :=
  entry.before.script.take (entry.before.script.length - entry.after.script.length)

/-- The bytes that became readable: what was pushed, and the replies of what was used. -/
def entered (entry : Entry) : List UInt8 :=
  entry.deed.pushed ++ entry.used.flatMap Exchange.reply

/-- The bytes that can no longer be read: what was returned, or all that was pending. -/
def gone (entry : Entry) : List UInt8 :=
  if entry.deed.discards then entry.before.input else entry.returned

/-- A write is taken whole, and answered exactly if the exchange in front takes any request
or expects these very bytes; an unanswered one is recorded, and that is all. -/
structure Written (entry : Entry) (bytes : List UInt8) : Prop where
  result : entry.result = .ok (.accepted bytes.length)
  used_or : entry.used = [] ∨ ∃ exchange, entry.used = [exchange]
  used_iff : ∀ exchange, entry.used = [exchange] ↔
    entry.before.script.head? = some exchange ∧
      (exchange.request = none ∨ exchange.request = some bytes)
  unanswered : entry.used = [] →
    entry.after = { entry.before with written := entry.before.written ++ [bytes] }

/-- How many slots a read fills: its chunk, its buffer and the pending input set the limit. -/
def share (entry : Entry) (buffer : List UInt8) : Nat :=
  min ((entry.before.chunk.map (max 1)).getD buffer.length)
    (min buffer.length entry.before.input.length)

/-- A read fills its share of the slots from the front of the input, and leaves the other
slots alone. -/
structure Filled (entry : Entry) (buffer filled : List UInt8) : Prop where
  result : entry.result = .ok (.filled (entry.share buffer) filled)
  length : filled.length = buffer.length
  taken : filled.take (entry.share buffer) = entry.before.input.take (entry.share buffer)
  untouched : filled.drop (entry.share buffer) = buffer.drop (entry.share buffer)

/-- What came in and what went out make up the difference, and only a write takes from the
script. -/
structure Balanced (entry : Entry) : Prop where
  input : entry.before.input ++ entry.entered = entry.gone ++ entry.after.input
  script : entry.before.script ++ entry.deed.scheduled = entry.used ++ entry.after.script
  idle : entry.deed.writes = [] → entry.used = []
  written : entry.after.written = entry.before.written ++ entry.deed.writes
  chunk : entry.after.chunk = (entry.deed.chunk <|> entry.before.chunk)
  arrivals : entry.after.arrivals = entry.before.arrivals

/-- What each entry owes. -/
structure Lawful (entry : Entry) : Prop extends Balanced entry where
  write : ∀ copy bytes mode, entry.deed = .write copy bytes mode → entry.Written bytes
  read : ∀ copy buffer mode, entry.deed = .read copy buffer mode →
    ∃ filled, entry.Filled buffer filled
  flush : ∀ copy, entry.deed = .flush copy → entry.after = { entry.before with input := [] }

variable {state : State}

/-- An exchange answers a write if it takes any request or expects these very bytes. -/
theorem answers_iff {exchange : Exchange} {bytes : List UInt8} :
    exchange.answers bytes = true ↔ exchange.request = none ∨ exchange.request = some bytes := by
  cases hrequest : exchange.request <;> simp [Exchange.answers, hrequest]

/-- What is left of a list tells what was taken from its front. -/
theorem used_of_script {entry : Entry} {front : List Exchange}
    (hscript : entry.before.script = front ++ entry.after.script) : entry.used = front := by
  rw [used, hscript, List.length_append, Nat.add_sub_cancel, List.take_left']
  rfl

/-- A deed that leaves the script alone or appends to it uses nothing. -/
theorem used_eq_nil {entry : Entry} {more : List Exchange}
    (hscript : entry.after.script = entry.before.script ++ more) : entry.used = [] := by
  rw [used, hscript, List.length_append, Nat.sub_eq_zero_of_le (Nat.le_add_right _ _),
    List.take_zero]

/-- A write is answered by the front exchange or changes nothing but the record. -/
theorem accept_cases (hquiet : state.arrivals = []) (bytes : List UInt8) :
    (∃ exchange rest, state.script = exchange :: rest ∧ exchange.answers bytes = true ∧
      state.accept bytes = { state with
        written := state.written ++ [bytes], script := rest,
        input := state.input ++ exchange.reply }) ∨
    ((∀ exchange, state.script.head? = some exchange → exchange.answers bytes = false) ∧
      state.accept bytes = { state with written := state.written ++ [bytes] }) := by
  cases hscript : state.script with
  | nil => exact .inr ⟨by simp, by simp [accept, hscript]⟩
  | cons exchange rest =>
      cases hanswers : exchange.answers bytes with
      | true =>
          exact .inl ⟨exchange, rest, rfl, hanswers, accept_of_answers hquiet hscript hanswers⟩
      | false => exact .inr ⟨by simp [hanswers], by simp [accept, hscript, hanswers]⟩

theorem deliverable_eq (room : Nat) : state.deliverable room =
    min ((state.chunk.map (max 1)).getD room) (min room state.input.length) := by
  rw [deliverable]
  cases state.chunk with
  | none => simp only [Option.map_none, Option.getD_none]; omega
  | some size => simp only [Option.map_some, Option.getD_some]; omega

/-- A read takes from the front of the input; if it takes nothing, time may pass. -/
theorem read_of_quiet (hquiet : state.arrivals = []) (room : Nat) (mode : IoMode) :
    ∃ clock, read room mode state =
      .ok (state.input.take (state.deliverable room))
        { state.deliver (state.deliverable room) with clock } := by
  simp only [read, settle_of_quiet hquiet]
  split
  · next hcount =>
      rw [hcount]
      exact ⟨_, rfl⟩
  · exact ⟨state.clock, rfl⟩

/-- A write is judged by the exchange in front of the script alone. -/
theorem lawful_write (hquiet : state.arrivals = []) (copy : Nat) (bytes : List UInt8)
    (mode : IoMode) : (ofDeed state (.write copy bytes mode)).Written bytes := by
  rcases accept_cases hquiet bytes with
    ⟨exchange, rest, hscript, hanswers, hafter⟩ | ⟨hfront, hafter⟩
  · have hused : (ofDeed state (.write copy bytes mode)).used = [exchange] := by
      apply used_of_script
      change state.script = [exchange] ++ (state.accept bytes).script
      rw [hafter, hscript, List.singleton_append]
    constructor
    · rfl
    · exact .inr ⟨exchange, hused⟩
    · intro other
      rw [hused, ← answers_iff]
      change _ ↔ state.script.head? = some other ∧ _
      rw [hscript]
      constructor
      · rintro ⟨⟩
        exact ⟨rfl, hanswers⟩
      · rintro ⟨⟨⟩, _⟩
        rfl
    · intro hnone
      rw [hused] at hnone
      cases hnone
  · have hused : (ofDeed state (.write copy bytes mode)).used = [] := by
      apply used_of_script
      change state.script = [] ++ (state.accept bytes).script
      rw [hafter, List.nil_append]
    constructor
    · rfl
    · exact .inl hused
    · intro exchange
      rw [hused, ← answers_iff]
      constructor
      · intro hnone
        cases hnone
      · rintro ⟨hhead, hanswers⟩
        rw [hfront exchange hhead] at hanswers
        cases hanswers
    · intro _
      exact hafter

theorem length_take_deliverable (room : Nat) :
    (state.input.take (state.deliverable room)).length = state.deliverable room :=
  List.length_take_of_le (deliverable_le room).2

theorem outcome_read (hquiet : state.arrivals = []) (index : Nat) (buffer : List UInt8)
    (mode : IoMode) :
    ∃ clock, (Deed.read index buffer mode).act.outcome state =
      (.ok (.filled (state.deliverable buffer.length)
          (overwrite buffer (state.input.take (state.deliverable buffer.length)))),
        { state.deliver (state.deliverable buffer.length) with clock }) := by
  obtain ⟨clock, hread⟩ := read_of_quiet hquiet buffer.length mode
  have hcount : (state.input.take (state.deliverable buffer.length)).length =
      state.deliverable buffer.length := length_take_deliverable buffer.length
  refine ⟨clock, ?_⟩
  simp only [Deed.act, transport, LinkM.outcome, bind, EStateM.bind, hread, hcount]
  rfl

/-- A read is judged by what is pending alone. -/
theorem lawful_read (hquiet : state.arrivals = []) (index : Nat) (buffer : List UInt8)
    (mode : IoMode) :
    ∃ filled, (ofDeed state (.read index buffer mode)).Filled buffer filled := by
  obtain ⟨clock, houtcome⟩ := outcome_read hquiet index buffer mode
  have hroom : state.deliverable buffer.length ≤ buffer.length :=
    (deliverable_le buffer.length).1
  have hcount : (state.input.take (state.deliverable buffer.length)).length =
      state.deliverable buffer.length := length_take_deliverable buffer.length
  have hfill : overwrite buffer (state.input.take (state.deliverable buffer.length)) =
      state.input.take (state.deliverable buffer.length) ++
        buffer.drop (state.deliverable buffer.length) := by
    rw [overwrite_eq (by rwa [hcount]), hcount]
  have hshare : (ofDeed state (.read index buffer mode)).share buffer =
      state.deliverable buffer.length := (deliverable_eq buffer.length).symm
  refine ⟨overwrite buffer (state.input.take (state.deliverable buffer.length)), ?_, ?_, ?_, ?_⟩
  · rw [hshare]
    exact congrArg Prod.fst houtcome
  · rw [hfill, List.length_append, hcount, List.length_drop, Nat.add_sub_cancel' hroom]
  · rw [hshare, hfill, List.take_left' hcount]
    rfl
  · rw [hshare, hfill, List.drop_left' hcount]

/-- Opening a link is refused or not; nothing that can be read or scripted changes. -/
theorem outcome_openLink (index : Nat) (mode : OpenMode) :
    (Deed.openLink index mode).act.outcome state =
      if state.refusesOpen then
        (.error (.transport .scriptedRefusal), { state with refusesOpen := false })
      else
        (.ok .done, { state with isOpen := true, openCount := state.openCount + 1 }) := by
  simp only [Deed.act, transport, LinkM.outcome, bind, EStateM.bind]
  cases state.refusesOpen <;> rfl

theorem outcome_flush (hquiet : state.arrivals = []) (index : Nat) :
    (Deed.flush index).act.outcome state = (.ok .done, { state with input := [] }) := by
  change (Except.ok Given.done, { state.settle with input := [] }) = _
  rw [settle_of_quiet hquiet]

variable {entry : Entry}

/-- An entry that leaves the front of the script alone is balanced if the input is. -/
theorem balanced_of_idle
    (hscript : entry.after.script = entry.before.script ++ entry.deed.scheduled)
    (hinput : entry.before.input ++ entry.deed.pushed = entry.gone ++ entry.after.input)
    (hwritten : entry.after.written = entry.before.written ++ entry.deed.writes)
    (hchunk : entry.after.chunk = (entry.deed.chunk <|> entry.before.chunk))
    (harrivals : entry.after.arrivals = entry.before.arrivals) : entry.Balanced where
  input := by rw [entered, used_eq_nil hscript, List.flatMap_nil, List.append_nil, hinput]
  script := by rw [used_eq_nil hscript, hscript, List.nil_append]
  idle _ := used_eq_nil hscript
  written := hwritten
  chunk := hchunk
  arrivals := harrivals

theorem balanced_openLink (index : Nat) (mode : OpenMode) :
    (ofDeed state (.openLink index mode)).Balanced := by
  rw [ofDeed, outcome_openLink]
  cases state.refusesOpen with
  | true =>
      exact balanced_of_idle (List.append_nil _).symm (List.append_nil _) (List.append_nil _).symm
        rfl rfl
  | false =>
      exact balanced_of_idle (List.append_nil _).symm (List.append_nil _) (List.append_nil _).symm
        rfl rfl

/-- What is written uses up the exchange that it answers, and its reply comes in. -/
theorem balanced_write (hquiet : state.arrivals = []) (index : Nat) (bytes : List UInt8)
    (mode : IoMode) : (ofDeed state (.write index bytes mode)).Balanced := by
  have hafter : (ofDeed state (.write index bytes mode)).after = state.accept bytes := rfl
  rcases accept_cases hquiet bytes with ⟨exchange, rest, hscript, _, haccept⟩ | ⟨_, haccept⟩
  · rw [haccept] at hafter
    have hused : (ofDeed state (.write index bytes mode)).used = [exchange] :=
      used_of_script (by rw [hafter]; exact hscript)
    constructor
    · rw [entered, hused, hafter]
      exact congrArg (state.input ++ ·) (List.append_nil _)
    · rw [hused, hafter]
      exact (List.append_nil _).trans hscript
    · intro hidle
      cases hidle
    · rw [hafter]
      rfl
    · rw [hafter]
      rfl
    · rw [hafter]
      rfl
  · rw [haccept] at hafter
    have hentry : ofDeed state (.write index bytes mode) =
        { before := state, deed := .write index bytes mode
          result := .ok (.accepted bytes.length)
          after := { state with written := state.written ++ [bytes] } } :=
      congrArg (Entry.mk state _ _) hafter
    rw [hentry]
    exact balanced_of_idle (List.append_nil _).symm (List.append_nil _) rfl rfl rfl

/-- What a read returns is what it took from the front of the input. -/
theorem returned_read (hquiet : state.arrivals = []) (index : Nat) (buffer : List UInt8)
    (mode : IoMode) : (ofDeed state (.read index buffer mode)).returned =
      state.input.take (state.deliverable buffer.length) := by
  obtain ⟨filled, hfilled⟩ := lawful_read hquiet index buffer mode
  have hshare : (ofDeed state (.read index buffer mode)).share buffer =
      state.deliverable buffer.length := (deliverable_eq buffer.length).symm
  rw [returned, hfilled.result]
  dsimp only
  rw [hfilled.taken, hshare]
  rfl

/-- What is read goes out from the front of the input. -/
theorem balanced_read (hquiet : state.arrivals = []) (index : Nat) (buffer : List UInt8)
    (mode : IoMode) : (ofDeed state (.read index buffer mode)).Balanced := by
  obtain ⟨clock, houtcome⟩ := outcome_read hquiet index buffer mode
  have hafter : (ofDeed state (.read index buffer mode)).after =
      { state.deliver (state.deliverable buffer.length) with clock } :=
    congrArg Prod.snd houtcome
  have hgone : (ofDeed state (.read index buffer mode)).gone =
      state.input.take (state.deliverable buffer.length) := returned_read hquiet index buffer mode
  apply balanced_of_idle
  · rw [hafter]
    exact (List.append_nil _).symm
  · rw [hgone, hafter]
    exact (List.append_nil _).trans (List.take_append_drop _ _).symm
  · rw [hafter]
    exact (List.append_nil _).symm
  · rw [hafter]
    rfl
  · rw [hafter]
    rfl

theorem balanced_flush (hquiet : state.arrivals = []) (index : Nat) :
    (ofDeed state (.flush index)).Balanced := by
  rw [ofDeed, outcome_flush hquiet]
  exact balanced_of_idle (List.append_nil _).symm rfl (List.append_nil _).symm rfl rfl

theorem balanced_ofDeed (hquiet : state.arrivals = []) (deed : Deed) :
    (ofDeed state deed).Balanced := by
  cases deed with
  | clone copy =>
      exact balanced_of_idle (List.append_nil _).symm (List.append_nil _) (List.append_nil _).symm
        rfl rfl
  | expect copy request reply =>
      exact balanced_of_idle rfl (List.append_nil _) (List.append_nil _).symm rfl rfl
  | replyNext copy reply =>
      exact balanced_of_idle rfl (List.append_nil _) (List.append_nil _).symm rfl rfl
  | push copy bytes =>
      have hafter : (ofDeed state (.push copy bytes)).after =
          { state with input := state.input ++ bytes } := push_of_quiet hquiet bytes
      have hentry : ofDeed state (.push copy bytes) =
          { before := state, deed := .push copy bytes, result := .ok .done
            after := { state with input := state.input ++ bytes } } :=
        congrArg (Entry.mk state _ _) hafter
      rw [hentry]
      exact balanced_of_idle (List.append_nil _).symm rfl (List.append_nil _).symm rfl rfl
  | setChunk copy size =>
      exact balanced_of_idle (List.append_nil _).symm (List.append_nil _) (List.append_nil _).symm
        rfl rfl
  | refuseOpen copy =>
      exact balanced_of_idle (List.append_nil _).symm (List.append_nil _) (List.append_nil _).symm
        rfl rfl
  | openLink index mode => exact balanced_openLink index mode
  | closeLink index =>
      exact balanced_of_idle (List.append_nil _).symm (List.append_nil _) (List.append_nil _).symm
        rfl rfl
  | write index bytes mode => exact balanced_write hquiet index bytes mode
  | read index buffer mode => exact balanced_read hquiet index buffer mode
  | flush index => exact balanced_flush hquiet index

/-- Every deed owes what it should, as long as nothing is to come by itself. -/
theorem lawful_ofDeed (hquiet : state.arrivals = []) (deed : Deed) :
    (ofDeed state deed).Lawful where
  toBalanced := balanced_ofDeed hquiet deed
  write copy bytes mode hdeed := by
    cases hdeed
    exact lawful_write hquiet copy bytes mode
  read copy buffer mode hdeed := by
    cases hdeed
    exact lawful_read hquiet copy buffer mode
  flush copy hdeed := by
    cases hdeed
    exact congrArg Prod.snd (outcome_flush hquiet copy)

end Entry

def play : State → List Deed → List Entry
  | _, [] => []
  | state, deed :: deeds =>
      Entry.ofDeed state deed :: play (Entry.ofDeed state deed).after deeds

def played : State → List Deed → State
  | state, [] => state
  | state, deed :: deeds => played (Entry.ofDeed state deed).after deeds

open Entry

theorem lawful_play {start : State} (hquiet : start.arrivals = []) (deeds : List Deed) :
    ∀ entry ∈ play start deeds, entry.Lawful := by
  induction deeds generalizing start with
  | nil => simp [play]
  | cons deed deeds ih =>
      have hnext := (balanced_ofDeed hquiet deed).arrivals.trans hquiet
      exact List.forall_mem_cons.mpr ⟨lawful_ofDeed hquiet deed, ih hnext⟩

@[simp]
theorem map_deed_play (start : State) (deeds : List Deed) :
    (play start deeds).map Entry.deed = deeds := by
  induction deeds generalizing start with
  | nil => rfl
  | cons deed deeds ih => rw [play, List.map_cons, ih]; rfl

/-- What one entry conserves, a whole run conserves. -/
theorem conserved_play {α : Type} {stock : State → List α} {enters leaves : Entry → List α}
    (hentry : ∀ entry : Entry, entry.Balanced →
      stock entry.before ++ enters entry = leaves entry ++ stock entry.after)
    {start : State} (hquiet : start.arrivals = []) (deeds : List Deed) :
    stock start ++ (play start deeds).flatMap enters =
      (play start deeds).flatMap leaves ++ stock (played start deeds) := by
  induction deeds generalizing start with
  | nil => simp [play, played]
  | cons deed deeds ih =>
      have hbalanced := balanced_ofDeed hquiet deed
      have hfirst := hentry _ hbalanced
      have hrest := ih (hbalanced.arrivals.trans hquiet)
      rw [play, played, List.flatMap_cons, List.flatMap_cons, ← List.append_assoc,
        List.append_assoc _ _ (stock (played _ _)), ← hrest, ← List.append_assoc, ← hfirst]
      rfl

/-- Without a flush, what is gone was returned. -/
theorem gone_of_mem_play {start : State} {deeds : List Deed}
    (hkeeps : ∀ deed ∈ deeds, deed.discards = false) :
    ∀ entry ∈ play start deeds, entry.gone = entry.returned := by
  intro entry hmem
  have hdeed : entry.deed ∈ deeds := by
    rw [← map_deed_play start deeds]
    exact List.mem_map_of_mem hmem
  rw [gone, hkeeps _ hdeed]
  rfl

/-- Scripted links and their copies: each copy refers to the state of a link by its number. -/
structure Copies where
  states : List State
  refers : List Nat

namespace Copies

def cell (copies : Copies) (index : Nat) : Nat := copies.refers.getD index 0

def stateOf (index : Nat) (copies : Copies) : State := copies.states.getD (copies.cell index) {}

def setStateOf (index : Nat) (copies : Copies) (state : State) : Copies :=
  { copies with states := copies.states.set (copies.cell index) state }

/-- Does a deed through the copy that it names.  A copy of a copy refers to the same state. -/
def act : Deed → LinkM Copies Given
  | .clone index => fun copies =>
      .ok .done { copies with refers := copies.refers ++ [copies.cell index] }
  | deed => LinkM.within (stateOf deed.copy) (setStateOf deed.copy) deed.act

def perform : Copies → List Deed → List (Except LinkError Given) × Copies
  | copies, [] => ([], copies)
  | copies, deed :: deeds =>
      let (result, after) := (act deed).outcome copies
      let (results, last) := after.perform deeds
      (result :: results, last)

/-- There is one link, in this state, and every copy refers to it. -/
structure Share (copies : Copies) (state : State) : Prop where
  states : copies.states = [state]
  refers : ∀ cell ∈ copies.refers, cell = 0

variable {copies : Copies} {state : State}

theorem Share.cell (h : copies.Share state) (index : Nat) : copies.cell index = 0 := by
  rw [Copies.cell, List.getD_eq_getElem?_getD]
  cases hrefers : copies.refers[index]? with
  | none => rfl
  | some cell => exact h.refers cell (List.mem_of_getElem? hrefers)

/-- Through whichever copy a deed is done, it is done to the one state. -/
theorem Share.act (h : copies.Share state) (deed : Deed) :
    ((act deed).outcome copies).1 = (deed.act.outcome state).1 ∧
      ((act deed).outcome copies).2.Share (deed.act.outcome state).2 := by
  by_cases hclone : ∃ index, deed = .clone index
  · obtain ⟨index, rfl⟩ := hclone
    refine ⟨rfl, h.states, ?_⟩
    intro cell hcell
    rcases List.mem_append.mp hcell with hold | hnew
    · exact h.refers cell hold
    · rw [List.mem_singleton.mp hnew]
      exact h.cell index
  · have hact : Copies.act deed =
        LinkM.within (stateOf deed.copy) (setStateOf deed.copy) deed.act := by
      cases deed with
      | clone index => exact absurd ⟨index, rfl⟩ hclone
      | _ => rfl
    have hstate : stateOf deed.copy copies = state := by
      rw [stateOf, h.cell, h.states]
      rfl
    have hset (after : State) : (setStateOf deed.copy copies after).Share after := by
      refine ⟨?_, h.refers⟩
      rw [setStateOf, h.cell, h.states]
      rfl
    rw [hact, LinkM.outcome, LinkM.outcome, LinkM.within, hstate]
    cases deed.act state with
    | ok given after => exact ⟨rfl, hset after⟩
    | error error after => exact ⟨rfl, hset after⟩

/-- The induction is on the deeds: each of them finds all copies at the same state. -/
theorem Share.perform (h : copies.Share state) (deeds : List Deed) :
    (copies.perform deeds).1 = (play state deeds).map Entry.result ∧
      (copies.perform deeds).2.Share (played state deeds) := by
  induction deeds generalizing copies state with
  | nil => exact ⟨rfl, h⟩
  | cons deed deeds ih =>
      obtain ⟨hresult, hafter⟩ := h.act deed
      obtain ⟨hresults, hlast⟩ := ih hafter
      refine ⟨?_, hlast⟩
      rw [Copies.perform, play, List.map_cons]
      exact congrArg₂ List.cons hresult hresults

end Copies

/-- However the copies of a scripted link are made and used, all of them act on one state, each
entry is lawful, exchanges are used up in the order of the script, every write is on record,
and all input is accounted for: what was returned or discarded, with what is still pending
behind it, is what was pending at first with what was pushed and answered behind it.  If
nothing is flushed, all of it was returned. -/
theorem input_in_order (start : State) (hquiet : start.arrivals = []) (deeds : List Deed) :
    (∀ copies : Copies, copies.Share start →
        (copies.perform deeds).1 = (play start deeds).map Entry.result ∧
          (copies.perform deeds).2.Share (played start deeds)) ∧
      (∀ entry ∈ play start deeds, entry.Lawful) ∧
      start.script ++ deeds.flatMap Deed.scheduled =
        (play start deeds).flatMap used ++ (played start deeds).script ∧
      (played start deeds).written = start.written ++ deeds.flatMap Deed.writes ∧
      start.input ++ (play start deeds).flatMap entered =
        (play start deeds).flatMap gone ++ (played start deeds).input ∧
      ((∀ deed ∈ deeds, deed.discards = false) →
        (play start deeds).flatMap returned ++ (played start deeds).input =
          start.input ++ (play start deeds).flatMap entered) := by
  have hdeeds : ∀ {α : Type} (part : Deed → List α),
      deeds.flatMap part = (play start deeds).flatMap fun entry => part entry.deed := by
    intro α part
    conv_lhs => rw [← map_deed_play start deeds]
    rw [List.flatMap_map]
  have hinput : start.input ++ (play start deeds).flatMap entered =
      (play start deeds).flatMap gone ++ (played start deeds).input :=
    conserved_play (fun _ hentry => hentry.input) hquiet deeds
  refine ⟨fun _ hshare => hshare.perform deeds, lawful_play hquiet deeds, ?_, ?_, hinput,
    fun hkeeps => ?_⟩
  · rw [hdeeds]
    exact conserved_play (fun _ hentry => hentry.script) hquiet deeds
  · have hwritten : start.written ++ (play start deeds).flatMap (fun entry => entry.deed.writes) =
        (play start deeds).flatMap (fun _ => []) ++ (played start deeds).written :=
      conserved_play (fun _ hentry => hentry.written.symm) hquiet deeds
    rw [hdeeds, hwritten]
    simp
  · rw [hinput, List.flatMap_congr (gone_of_mem_play hkeeps)]

/-- A copy and a copy of it, an open that is refused, a write that the front exchange does not
answer, and reads that are cut short by a chunk and by a buffer. -/
theorem input_in_order_fragmented :
    let deeds : List Deed :=
      [.push 0 [9], .clone 0, .expect 1 [1, 2] [10, 11, 12], .clone 1, .replyNext 2 [13],
        .refuseOpen 0, .openLink 0 .readWrite, .openLink 1 .readWrite, .write 0 [7] .nonBlocking,
        .setChunk 0 0, .write 1 [1, 2] .nonBlocking, .read 2 [0, 0] (.blocking 5), .closeLink 0,
        .setChunk 0 3, .write 1 [7] .nonBlocking, .read 1 [5, 5, 5, 5] .nonBlocking,
        .read 0 [] .nonBlocking]
    let copies : Copies := { states := [{}], refers := [0] }
    ({} : State).arrivals = [] ∧ (∀ deed ∈ deeds, deed.discards = false) ∧ copies.Share {} ∧
      (copies.perform deeds).1 = (play {} deeds).map Entry.result ∧
      (copies.perform deeds).2.Share (played {} deeds) ∧
      (∀ entry ∈ play {} deeds, entry.Lawful) ∧
      (play {} deeds).flatMap returned ++ (played {} deeds).input =
        (play {} deeds).flatMap entered ∧
      (play {} deeds).flatMap returned = [9, 10, 11, 12] ∧
      (play {} deeds).flatMap entered = [9, 10, 11, 12, 13] ∧
      (played {} deeds).written = [[7], [1, 2], [7]] := by
  intro deeds copies
  have hkeeps : ∀ deed ∈ deeds, deed.discards = false := by decide
  have hshare : copies.Share {} := ⟨rfl, by decide⟩
  obtain ⟨hperform, hlawful, _, _, _, hreturned⟩ := input_in_order {} rfl deeds
  exact ⟨rfl, hkeeps, hshare, (hperform copies hshare).1, (hperform copies hshare).2, hlawful,
    hreturned hkeeps, by decide, by decide, by decide⟩

end InstrumentLink.Scripted
