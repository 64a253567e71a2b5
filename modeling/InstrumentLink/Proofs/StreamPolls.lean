import InstrumentLink.Transport.Stream
import Mathlib.Data.List.Basic

/-!
# What the polls of a call come to

A call on a stream is no more than its polls: it goes on as long as they move bytes or are
broken off, offers each of them what the earlier ones left, and reports the bytes that they
moved.  Only where they moved none does it report a failure, and then that of the last of
them.  What a poll has taken from a stream is therefore never lost, and what a poll has
given to it is never given again.
-/

namespace InstrumentLink.Stream

variable {β : Type}

namespace Poll

def bytes (poll : Poll) : List UInt8 :=
  match poll.found with
  | some (.ok bytes) => bytes
  | _ => []

def Interrupted (poll : Poll) : Prop :=
  ∃ error, poll.found = some (.error error) ∧ error.kind = .interrupted

def GoesOn (poll : Poll) : Prop := poll.bytes ≠ [] ∨ poll.Interrupted

/-- Why a poll ends a call that moved nothing: it moved nothing either, or met a failure that
is no mere interruption. -/
inductive Fails (stuck : Error) (poll : Poll) : Error → Prop
  | stuck (hfound : poll.found = some (.ok [])) : Fails stuck poll stuck
  | broken {error : Error} (hfound : poll.found = some (.error error))
      (hkind : error.kind ≠ .interrupted) : Fails stuck poll error

def report (stuck : Error) (done : Nat) (poll : Poll) : Except Error Nat :=
  match poll.found with
  | none => .ok done
  | some (.ok bytes) =>
      if done + bytes.length = 0 then .error stuck else .ok (done + bytes.length)
  | some (.error error) => if done = 0 then .error error else .ok done

variable {poll : Poll} {stuck error : Error}

theorem bytes_of_moved {bytes : List UInt8} (hfound : poll.found = some (.ok bytes)) :
    poll.bytes = bytes := by
  rw [Poll.bytes, hfound]

theorem bytes_of_failure (hfound : poll.found = some (.error error)) : poll.bytes = [] := by
  rw [Poll.bytes, hfound]

theorem bytes_of_notReady (hfound : poll.found = none) : poll.bytes = [] := by
  rw [Poll.bytes, hfound]

theorem Interrupted.bytes (hinterrupted : poll.Interrupted) : poll.bytes = [] := by
  obtain ⟨error, hfound, _⟩ := hinterrupted
  exact bytes_of_failure hfound

theorem Fails.bytes (hfails : poll.Fails stuck error) : poll.bytes = [] := by
  cases hfails with
  | stuck hfound => exact bytes_of_moved hfound
  | broken hfound _ => exact bytes_of_failure hfound

theorem Fails.not_interrupted (hfails : poll.Fails stuck error) : ¬poll.Interrupted := by
  rintro ⟨other, hother, hkind⟩
  cases hfails with
  | stuck hfound =>
      rw [hfound] at hother
      cases hother
  | broken hfound hno =>
      rw [hfound] at hother
      cases hother
      exact hno hkind

theorem Fails.not_goesOn (hfails : poll.Fails stuck error) : ¬poll.GoesOn := by
  rintro (hbytes | hinterrupted)
  · exact hbytes hfails.bytes
  · exact hfails.not_interrupted hinterrupted

theorem report_eq_ok {done count : Nat} (hreport : poll.report stuck done = .ok count) :
    count = done + poll.bytes.length := by
  rw [report] at hreport
  split at hreport
  · next hfound =>
      cases hreport
      rw [bytes_of_notReady hfound, List.length_nil, Nat.add_zero]
  · next hfound =>
      split at hreport <;> cases hreport
      rw [bytes_of_moved hfound]
  · next hfound =>
      split at hreport <;> cases hreport
      rw [bytes_of_failure hfound, List.length_nil, Nat.add_zero]

theorem report_of_notReady {done : Nat} (hfound : poll.found = none) :
    poll.report stuck done = .ok (done + poll.bytes.length) := by
  rw [report, bytes_of_notReady hfound, hfound]
  rfl

/-- A failure is reported only if nothing was moved before it. -/
theorem report_eq_error_iff {done : Nat} (hends : ¬poll.Interrupted) :
    poll.report stuck done = .error error ↔ done = 0 ∧ poll.Fails stuck error := by
  constructor
  · intro hreport
    rw [report] at hreport
    split at hreport
    · cases hreport
    · next bytes hfound =>
        split at hreport
        · next hnone =>
            obtain ⟨hdone, hbytes⟩ := Nat.add_eq_zero_iff.mp hnone
            rw [List.eq_nil_of_length_eq_zero hbytes] at hfound
            cases hreport
            exact ⟨hdone, .stuck hfound⟩
        · cases hreport
    · next failure hfound =>
        split at hreport
        · next hdone =>
            cases hreport
            exact ⟨hdone, .broken hfound fun hkind => hends ⟨_, hfound, hkind⟩⟩
        · cases hreport
  · rintro ⟨rfl, hfails⟩
    cases hfails with
    | stuck hfound =>
        rw [report, hfound]
        rfl
    | broken hfound _ =>
        rw [report, hfound]
        rfl

theorem not_goesOn_of_notReady (hfound : poll.found = none) : ¬poll.GoesOn := by
  rintro (hbytes | ⟨error, herror, _⟩)
  · exact hbytes (bytes_of_notReady hfound)
  · rw [hfound] at herror
    cases herror

end Poll

/-- What a poll finds when this thing, if any, is the next. -/
def Direction.answer (direction : Direction β) (deadline : Nat) (offered : List UInt8) :
    Option (Due β) → Option (Except Error (List UInt8))
  | none => none
  | some due =>
      if deadline < due.time then none else some (direction.meet offered due.thing).1

theorem Direction.answer_of_late {direction : Direction β} {deadline : Nat}
    {offered : List UInt8} {due : Due β} (hlate : deadline < due.time) :
    direction.answer deadline offered (some due) = none :=
  if_pos hlate

theorem Direction.answer_of_met {direction : Direction β} {deadline : Nat}
    {offered : List UInt8} {due : Due β} {found : Except Error (List UInt8)} {left : Option β}
    (htime : ¬deadline < due.time) (hmeet : direction.meet offered due.thing = (found, left)) :
    direction.answer deadline offered (some due) = some found := by
  rw [answer, if_neg htime, hmeet]

theorem Direction.exists_of_answer {direction : Direction β} {deadline : Nat}
    {offered : List UInt8} {next : Option (Due β)} {found : Except Error (List UInt8)}
    (hanswer : direction.answer deadline offered next = some found) :
    ∃ thing, (direction.meet offered thing).1 = found := by
  cases next with
  | none => cases hanswer
  | some due =>
      rw [answer] at hanswer
      split at hanswer
      · cases hanswer
      · exact ⟨due.thing, Option.some.inj hanswer⟩

/-- A poll moves no more than it is offered, and leaves alone what lies behind. -/
structure Direction.Lawful (direction : Direction β) : Prop where
  bounded : ∀ {offered thing bytes}, (direction.meet offered thing).1 = .ok bytes →
    bytes.length ≤ offered.length
  length_place : ∀ {buffer done bytes}, done + bytes.length ≤ buffer.length →
    (direction.place buffer done bytes).length = buffer.length
  drop_place : ∀ {buffer done bytes}, done + bytes.length ≤ buffer.length →
    (direction.place buffer done bytes).drop (done + bytes.length) =
      buffer.drop (done + bytes.length)
  stuck : direction.stuck.kind ≠ .interrupted

/-- A poll that is offered what is left of a buffer moves no more than has a place in it. -/
theorem Direction.Lawful.fits {direction : Direction β} (hlawful : direction.Lawful)
    {buffer bytes : List UInt8} {done : Nat} {thing : β} {left : Option β}
    (hmeet : direction.meet (buffer.drop done) thing = (.ok bytes, left))
    (hroom : done ≤ buffer.length) : done + bytes.length ≤ buffer.length := by
  have hbounded : bytes.length ≤ (buffer.drop done).length :=
    hlawful.bounded (congrArg Prod.fst hmeet)
  rw [List.length_drop] at hbounded
  omega

/-- Reading moves what came, as far as it fits. -/
theorem reading_lawful : reading.Lawful where
  bounded {offered thing bytes} hmeet := by
    cases thing with
    | data ready =>
        cases hmeet
        exact List.length_take_le _ _
    | finished =>
        cases hmeet
        exact Nat.zero_le _
    | failure error => cases hmeet
  length_place {buffer done bytes} hfits := by
    simp only [reading, List.length_append, List.length_take, List.length_drop]
    omega
  drop_place {buffer done bytes} hfits := by
    rw [reading]
    apply List.drop_left'
    rw [List.length_append, List.length_take]
    omega
  stuck := by decide

theorem writing_lawful : writing.Lawful where
  bounded {offered thing bytes} hmeet := by
    cases thing with
    | room count =>
        cases hmeet
        exact List.length_take_le' _ _
    | failure error => cases hmeet
  length_place _ := rfl
  drop_place _ := rfl
  stuck := by decide

section

variable (direction : Direction β) (deadline : Nat) (buffer : List UInt8)

/-- A poll after `done` bytes is offered the rest of the buffer, and meets the next thing. -/
structure Meets (done : Nat) (next : Option (Due β)) (poll : Poll) : Prop where
  room : done < buffer.length
  offered : poll.offered = buffer.drop done
  found : poll.found = direction.answer deadline poll.offered next
  bounded : poll.bytes.length ≤ poll.offered.length

/-- The polls of a call of which `done` bytes have moved, and its report.  It ends with the
first poll after which it cannot go on or need not. -/
inductive Trace : Nat → List (Due β) → List Poll → Except Error Nat → Prop
  | last {done dues poll} (hmeets : Meets direction deadline buffer done dues.head? poll)
      (hends : poll.GoesOn → done + poll.bytes.length = buffer.length) :
      Trace done dues [poll] (poll.report direction.stuck done)
  | more {done due later poll polls result}
      (hmeets : Meets direction deadline buffer done (some due) poll) (hgoes : poll.GoesOn)
      (hroom : done + poll.bytes.length < buffer.length)
      (hrest : Trace (done + poll.bytes.length) later polls result) :
      Trace done (due :: later) (poll :: polls) result

end

section

variable {direction : Direction β} {deadline : Nat} {buffer current : List UInt8}
variable {done clock : Nat} {dues : List (Due β)}

/-- The polls of a call make up a trace, although what it has filled changes its buffer. -/
theorem trace_transfer (hlawful : direction.Lawful) (hlength : current.length = buffer.length)
    (hbehind : current.drop done = buffer.drop done) (hroom : done < buffer.length) :
    Trace direction deadline buffer done dues
      (transfer direction deadline current done clock dues).polls
      (transfer direction deadline current done clock dues).result := by
  fun_induction transfer direction deadline current done clock dues with
  | case1 current done clock =>
      exact .last ⟨hroom, hbehind, rfl, Nat.zero_le _⟩
        fun hgoes => (Poll.not_goesOn_of_notReady rfl hgoes).elim
  | case2 current done clock due later hlate =>
      exact .last ⟨hroom, hbehind, (Direction.answer_of_late hlate).symm, Nat.zero_le _⟩
        fun hgoes => (Poll.not_goesOn_of_notReady rfl hgoes).elim
  | case3 current done _ due later htime left clock rest hmeet poll =>
      have hfails : poll.Fails direction.stuck direction.stuck := .stuck rfl
      exact .last ⟨hroom, hbehind, (Direction.answer_of_met htime hmeet).symm, Nat.zero_le _⟩
        fun hgoes => (hfails.not_goesOn hgoes).elim
  | case4 current done _ due later htime left clock rest bytes hsome next total hfull hmeet poll =>
      have hfits : done + bytes.length ≤ current.length := hlawful.fits hmeet (by omega)
      have htotal : total = buffer.length := by
        have hnext : next.length = current.length := hlawful.length_place hfits
        omega
      have hreport : poll.report direction.stuck done = .ok total := if_neg (by omega)
      rw [← hreport]
      exact .last ⟨hroom, hbehind, (Direction.answer_of_met htime hmeet).symm,
        hlawful.bounded (congrArg Prod.fst hmeet)⟩ fun _ => htotal
  | case5 current done _ due later htime left clock bytes hsome next total hless hmeet poll ih =>
      have hfits : done + bytes.length ≤ current.length := hlawful.fits hmeet (by omega)
      have hnext : next.length = current.length := hlawful.length_place hfits
      have htotal : total < buffer.length := by omega
      have hdrop : next.drop total = buffer.drop total := by
        rw [hlawful.drop_place hfits, ← List.drop_drop, hbehind, List.drop_drop]
      exact .more ⟨hroom, hbehind, (Direction.answer_of_met htime hmeet).symm,
        hlawful.bounded (congrArg Prod.fst hmeet)⟩ (.inl hsome) htotal
        (ih (hnext.trans hlength) hdrop htotal)
  | case6 current done _ due later htime left clock error hkind hmeet poll ih =>
      exact .more ⟨hroom, hbehind, (Direction.answer_of_met htime hmeet).symm, Nat.zero_le _⟩
        (.inr ⟨error, rfl, hkind⟩) hroom (ih hlength hbehind hroom)
  | case7 current done _ due later htime left clock rest error hkind hmeet poll =>
      have hfails : poll.Fails direction.stuck error := .broken rfl hkind
      exact .last ⟨hroom, hbehind, (Direction.answer_of_met htime hmeet).symm, Nat.zero_le _⟩
        fun hgoes => (hfails.not_goesOn hgoes).elim

end

namespace Trace

variable {direction : Direction β} {deadline : Nat} {buffer : List UInt8} {done : Nat}
variable {dues : List (Due β)} {polls : List Poll} {result : Except Error Nat}

/-- Each poll is offered what is left behind the bytes of the earlier ones. -/
theorem meets (htrace : Trace direction deadline buffer done dues polls result) :
    ∀ {front poll back}, polls = front ++ poll :: back →
      Meets direction deadline buffer (done + (front.flatMap Poll.bytes).length)
        dues[front.length]? poll := by
  induction htrace with
  | @last done dues poll hmeets hends =>
      intro front other back hpolls
      cases front with
      | nil =>
          cases hpolls
          rw [List.length_nil, ← List.head?_eq_getElem?]
          exact hmeets
      | cons head front => simp at hpolls
  | @more done due later poll polls result hmeets hgoes hroom hrest ih =>
      intro front other back hpolls
      cases front with
      | nil =>
          cases hpolls
          exact hmeets
      | cons head front =>
          cases hpolls
          rw [List.flatMap_cons, List.length_append, ← Nat.add_assoc]
          exact ih rfl

/-- Only bytes and interruptions are followed by another poll. -/
theorem goesOn (htrace : Trace direction deadline buffer done dues polls result) :
    ∀ {front poll back}, polls = front ++ poll :: back → back ≠ [] → poll.GoesOn := by
  induction htrace with
  | @last done dues poll hmeets hends =>
      intro front other back hpolls hback
      cases front with
      | nil =>
          cases hpolls
          exact absurd rfl hback
      | cons head front => simp at hpolls
  | @more done due later poll polls result hmeets hgoes hroom hrest ih =>
      intro front other back hpolls hback
      cases front with
      | nil =>
          cases hpolls
          exact hgoes
      | cons head front =>
          cases hpolls
          exact ih rfl hback

/-- No trace moves more than its buffer holds. -/
theorem length_le (htrace : Trace direction deadline buffer done dues polls result) :
    done + (polls.flatMap Poll.bytes).length ≤ buffer.length := by
  induction htrace with
  | @last done dues poll hmeets hends =>
      have hbounded := hmeets.bounded
      have hroom := hmeets.room
      rw [hmeets.offered, List.length_drop] at hbounded
      rw [List.flatMap_singleton]
      omega
  | more _ _ _ _ ih =>
      rw [List.flatMap_cons, List.length_append]
      omega

/-- A call that succeeds reports the number of bytes that moved. -/
theorem eq_of_ok {count : Nat}
    (htrace : Trace direction deadline buffer done dues polls (.ok count)) :
    count = done + (polls.flatMap Poll.bytes).length := by
  generalize hresult : Except.ok count = result at htrace
  induction htrace with
  | last _ _ =>
      rw [List.flatMap_singleton]
      exact Poll.report_eq_ok hresult.symm
  | more _ _ _ _ ih =>
      rw [List.flatMap_cons, List.length_append, ← Nat.add_assoc]
      exact ih hresult

/-- A call that succeeds is done, or its last poll could move nothing more. -/
theorem done_or_stopped {count : Nat}
    (htrace : Trace direction deadline buffer done dues polls (.ok count)) :
    count = buffer.length ∨ ∃ front last, polls = front ++ [last] ∧ ¬last.GoesOn := by
  generalize hresult : Except.ok count = result at htrace
  induction htrace with
  | @last done dues poll hmeets hends =>
      by_cases hgoes : poll.GoesOn
      · exact .inl ((Poll.report_eq_ok hresult.symm).trans (hends hgoes))
      · exact .inr ⟨[], poll, rfl, hgoes⟩
  | @more done due later poll polls result hmeets hgoes hroom hrest ih =>
      refine (ih hresult).imp id ?_
      rintro ⟨front, last, rfl, hlast⟩
      exact ⟨poll :: front, last, rfl, hlast⟩

/-- A call fails exactly if no byte has moved and its polls were broken off but for the last,
which tells why. -/
theorem eq_error_iff {error : Error}
    (htrace : Trace direction deadline buffer done dues polls result) :
    result = .error error ↔ done = 0 ∧ ∃ front last, polls = front ++ [last] ∧
      (∀ poll ∈ front, poll.Interrupted) ∧ last.Fails direction.stuck error := by
  induction htrace with
  | @last done dues poll hmeets hends =>
      have hfinal : ¬poll.Interrupted := fun hinterrupted => by
        have hfull := hends (.inr hinterrupted)
        have hroom := hmeets.room
        rw [hinterrupted.bytes, List.length_nil] at hfull
        omega
      rw [Poll.report_eq_error_iff hfinal]
      refine and_congr_right fun _ => ⟨fun hfails => ⟨[], poll, rfl, by simp, hfails⟩, ?_⟩
      rintro ⟨front, last, hpolls, _, hfails⟩
      cases front with
      | nil =>
          cases hpolls
          exact hfails
      | cons head front => simp at hpolls
  | @more done due later poll polls result hmeets hgoes hroom hrest ih =>
      rw [ih, Nat.add_eq_zero_iff, and_assoc]
      refine and_congr_right fun _ => ⟨?_, ?_⟩
      · rintro ⟨hnone, front, last, rfl, hfront, hfails⟩
        have hbytes : ¬poll.bytes ≠ [] :=
          not_not.mpr (List.eq_nil_of_length_eq_zero hnone)
        exact ⟨poll :: front, last, rfl,
          List.forall_mem_cons.mpr ⟨hgoes.resolve_left hbytes, hfront⟩, hfails⟩
      · rintro ⟨front, last, hpolls, hfront, hfails⟩
        cases front with
        | nil =>
            cases hpolls
            exact (hfails.not_goesOn hgoes).elim
        | cons head front =>
            cases hpolls
            obtain ⟨hhead, hfront⟩ := List.forall_mem_cons.mp hfront
            exact ⟨by rw [hhead.bytes]; rfl, front, last, rfl, hfront, hfails⟩

/-- A stream that is not ready ends a call with what has moved so far. -/
theorem ok_of_notReady (htrace : Trace direction deadline buffer done dues polls result)
    {poll : Poll} (hmem : poll ∈ polls) (hfound : poll.found = none) :
    result = .ok (done + (polls.flatMap Poll.bytes).length) := by
  induction htrace with
  | last _ _ =>
      cases List.mem_singleton.mp hmem
      rw [List.flatMap_singleton]
      exact Poll.report_of_notReady hfound
  | @more done due later head polls result hmeets hgoes hroom hrest ih =>
      rw [List.flatMap_cons, List.length_append, ← Nat.add_assoc]
      rcases List.mem_cons.mp hmem with rfl | hmem
      · exact (Poll.not_goesOn_of_notReady hfound hgoes).elim
      · exact ih hmem

end Trace

section

variable {deadline done clock : Nat} {buffer : List UInt8} {dues : List (Due Incoming)}

/-- The bytes that a stream has ready, from some time on. -/
def Due.bytes (due : Due Incoming) : List UInt8 :=
  match due.thing with
  | .data bytes => bytes
  | _ => []

/-- What a poll for input meets is what it finds with what it leaves. -/
theorem bytes_of_meet {offered bytes : List UInt8} {due : Due Incoming} {left : Option Incoming}
    (hmeet : reading.meet offered due.thing = (.ok bytes, left)) :
    due.bytes = bytes ++ (left.map (Due.mk due.time)).toList.flatMap Due.bytes := by
  obtain ⟨time, thing⟩ := due
  cases thing with
  | data ready =>
      obtain ⟨hbytes, hleft⟩ := Prod.mk.inj hmeet
      cases hbytes
      cases hleft
      change ready = _
      split
      · next hfits => rw [List.take_of_length_le hfits]; exact (List.append_nil ready).symm
      · exact ((congrArg (ready.take offered.length ++ ·) (List.append_nil _)).trans
          (List.take_append_drop _ _)).symm
  | finished =>
      cases hmeet
      rfl
  | failure error => cases hmeet

/-- Where slots are left over, a poll leaves nothing of what it takes from. -/
theorem left_of_meet {offered bytes : List UInt8} {thing : Incoming} {left : Option Incoming}
    (hmeet : reading.meet offered thing = (.ok bytes, left)) (hsome : bytes ≠ [])
    (hless : bytes.length < offered.length) : left = none := by
  cases thing with
  | data ready =>
      obtain ⟨hbytes, hleft⟩ := Prod.mk.inj hmeet
      cases hbytes
      rw [List.length_take] at hless
      rw [← hleft, if_pos (by omega)]
  | finished =>
      cases hmeet
      exact absurd rfl hsome
  | failure error => cases hmeet

theorem bytes_of_meet_failure {offered : List UInt8} {error : Error} {due : Due Incoming}
    {left : Option Incoming} (hmeet : reading.meet offered due.thing = (.error error, left)) :
    due.bytes = [] ∧ left = none := by
  obtain ⟨time, thing⟩ := due
  cases thing with
  | data ready => cases hmeet
  | finished => cases hmeet
  | failure other =>
      cases hmeet
      exact ⟨rfl, rfl⟩

/-- What the polls of a reading call do not take is there for later polls. -/
theorem bytes_of_reading (hroom : done ≤ buffer.length) :
    dues.flatMap Due.bytes =
      (transfer reading deadline buffer done clock dues).polls.flatMap Poll.bytes ++
        (transfer reading deadline buffer done clock dues).later.flatMap Due.bytes := by
  fun_induction transfer reading deadline buffer done clock dues with
  | case1 buffer done clock => rfl
  | case2 buffer done clock due later hlate => rfl
  | case3 buffer done _ due later htime left clock rest hmeet poll =>
      rw [List.flatMap_cons, bytes_of_meet hmeet, List.flatMap_append]
      rfl
  | case4 buffer done _ due later htime left clock rest bytes hsome next total hfull hmeet poll =>
      rw [List.flatMap_cons, bytes_of_meet hmeet, List.flatMap_append, List.append_assoc,
        List.flatMap_singleton]
      rfl
  | case5 buffer done _ due later htime left clock bytes hsome next total hless hmeet poll ih =>
      have hnext : next.length = buffer.length :=
        reading_lawful.length_place (reading_lawful.fits hmeet hroom)
      have hleft : left = none := left_of_meet hmeet hsome (by rw [List.length_drop]; omega)
      rw [List.flatMap_cons, bytes_of_meet hmeet, hleft, ih (by omega), List.append_assoc,
        Ended.behind, List.flatMap_cons, List.append_assoc]
      rfl
  | case6 buffer done _ due later htime left clock error hkind hmeet poll ih =>
      rw [List.flatMap_cons, (bytes_of_meet_failure hmeet).1, ih hroom]
      rfl
  | case7 buffer done _ due later htime left clock rest error hkind hmeet poll =>
      obtain ⟨hbytes, rfl⟩ := bytes_of_meet_failure hmeet
      rw [List.flatMap_cons, hbytes]
      rfl

/-- A reading call puts the bytes of its polls into the buffer one after the other. -/
theorem buffer_of_reading (deadline clock : Nat) (dues : List (Due Incoming))
    (hroom : done ≤ buffer.length) :
    (transfer reading deadline buffer done clock dues).buffer =
      buffer.take done ++
        (transfer reading deadline buffer done clock dues).polls.flatMap Poll.bytes ++
        buffer.drop (done + ((transfer reading deadline buffer done clock dues).polls.flatMap
          Poll.bytes).length) := by
  have hsame : ∀ (buffer : List UInt8) (done : Nat),
      buffer = buffer.take done ++ [] ++ buffer.drop (done + 0) := fun buffer done => by
    rw [List.append_nil, Nat.add_zero, List.take_append_drop]
  fun_induction transfer reading deadline buffer done clock dues with
  | case1 buffer done clock => exact hsame buffer done
  | case2 buffer done clock due later hlate => exact hsame buffer done
  | case3 buffer done _ due later htime left clock rest hmeet poll => exact hsame buffer done
  | case4 buffer done _ due later htime left clock rest bytes hsome next total hfull hmeet poll =>
      rw [List.flatMap_singleton]
      rfl
  | case5 buffer done _ due later htime left clock bytes hsome next total hless hmeet poll ih =>
      have hfits : done + bytes.length ≤ buffer.length := reading_lawful.fits hmeet hroom
      have hnext : next.length = buffer.length := reading_lawful.length_place hfits
      have htake : next.take total = buffer.take done ++ bytes := by
        apply List.take_left'
        rw [List.length_append, List.length_take, Nat.min_eq_left hroom]
      have hdrop : ∀ more, next.drop (total + more) = buffer.drop (total + more) := fun more => by
        rw [← List.drop_drop, reading_lawful.drop_place hfits, List.drop_drop]
      rw [Ended.behind, List.flatMap_cons, ih (by omega), htake, hdrop, List.length_append,
        ← Nat.add_assoc, ← List.append_assoc]
      rfl
  | case6 buffer done _ due later htime left clock error hkind hmeet poll ih => exact ih hroom
  | case7 buffer done _ due later htime left clock rest error hkind hmeet poll =>
      exact hsame buffer done

end

section

variable {deadline done : Nat} {buffer : List UInt8} {dues : List (Due Outgoing)}

/-- A poll sends the front of what it is offered. -/
theorem Meets.bytes_isPrefix {next : Option (Due Outgoing)} {poll : Poll}
    (hmeets : Meets writing deadline buffer done next poll) : poll.bytes <+: buffer.drop done := by
  rw [← hmeets.offered, Poll.bytes]
  split
  · next bytes hfound =>
      obtain ⟨thing, hmeet⟩ := Direction.exists_of_answer (hmeets.found.symm.trans hfound)
      cases thing with
      | room count =>
          cases hmeet
          exact List.take_prefix _ _
      | failure error => cases hmeet
  · exact List.nil_prefix

/-- A writing call hands over the front of what is left of its buffer. -/
theorem Trace.bytes_of_writing {polls : List Poll} {result : Except Error Nat}
    (htrace : Trace writing deadline buffer done dues polls result) :
    polls.flatMap Poll.bytes <+: buffer.drop done := by
  induction htrace with
  | last hmeets _ =>
      rw [List.flatMap_singleton]
      exact hmeets.bytes_isPrefix
  | @more done due later poll polls result hmeets hgoes hroom hrest ih =>
      obtain ⟨rest, hrest⟩ := hmeets.bytes_isPrefix
      rw [← List.drop_drop, ← hrest, List.drop_left] at ih
      rw [List.flatMap_cons, ← hrest]
      exact (List.prefix_append_right_inj _).mpr ih

end

/-- What a call owes: each poll is offered what the earlier ones left of the buffer and finds
what is next, and none is made once the buffer is done; what the polls moved is what a
success reports, and a failure is reported only where they moved nothing, and then is the
last poll's own.  A stream that is not ready makes no failure. -/
structure Ended.Accounted (ended : Ended β) (direction : Direction β) (stuck : Error)
    (deadline : Nat) (buffer : List UInt8) (dues : List (Due β)) : Prop where
  meets : ∀ {front poll back}, ended.polls = front ++ poll :: back →
    Meets direction deadline buffer (front.flatMap Poll.bytes).length dues[front.length]? poll
  goesOn : ∀ {front poll back}, ended.polls = front ++ poll :: back → back ≠ [] → poll.GoesOn
  count : ∀ {count}, ended.result = .ok count →
    count = (ended.polls.flatMap Poll.bytes).length ∧ count ≤ buffer.length
  stopped : ∀ {count}, ended.result = .ok count →
    count = buffer.length ∨ ∃ front last, ended.polls = front ++ [last] ∧ ¬last.GoesOn
  error_iff : ∀ {error}, ended.result = .error error ↔
    ∃ front last, ended.polls = front ++ [last] ∧ (∀ poll ∈ front, poll.Interrupted) ∧
      last.Fails stuck error
  nothing : ∀ {error}, ended.result = .error error →
    ended.polls.flatMap Poll.bytes = [] ∧ error.kind ≠ .interrupted
  notReady : ∀ {poll}, poll ∈ ended.polls → poll.found = none →
    ended.result = .ok (ended.polls.flatMap Poll.bytes).length

/-- The parts of the account are properties of the trace, each with an induction of its own. -/
theorem accounted_of_trace {direction : Direction β} {deadline : Nat} {buffer : List UInt8}
    {dues : List (Due β)} {ended : Ended β} (hlawful : direction.Lawful)
    (htrace : Trace direction deadline buffer 0 dues ended.polls ended.result) :
    ended.Accounted direction direction.stuck deadline buffer dues := by
  have herror : ∀ {error}, ended.result = .error error ↔
      ∃ front last, ended.polls = front ++ [last] ∧ (∀ poll ∈ front, poll.Interrupted) ∧
        last.Fails direction.stuck error := by
    intro error
    rw [htrace.eq_error_iff]
    exact and_iff_right rfl
  refine ⟨fun hpolls => ?_, htrace.goesOn, fun hresult => ?_, fun hresult => ?_, herror,
    fun hresult => ?_, fun hmem hfound => ?_⟩
  · have hmeets := htrace.meets hpolls
    rwa [Nat.zero_add] at hmeets
  · have hlength := htrace.length_le
    rw [hresult] at htrace
    have hcount := htrace.eq_of_ok
    rw [Nat.zero_add] at hcount hlength
    exact ⟨hcount, hcount ▸ hlength⟩
  · rw [hresult] at htrace
    exact htrace.done_or_stopped
  · obtain ⟨front, last, hpolls, hfront, hfails⟩ := herror.mp hresult
    constructor
    · rw [hpolls, List.flatMap_append, List.flatMap_singleton, hfails.bytes, List.append_nil]
      exact List.flatMap_eq_nil_iff.mpr fun poll hpoll => (hfront poll hpoll).bytes
    · cases hfails with
      | stuck _ => exact hlawful.stuck
      | broken _ hkind => exact hkind
  · have hresult := htrace.ok_of_notReady hmem hfound
    rwa [Nat.zero_add] at hresult

theorem accounted_of_nil {direction : Direction β} {stuck : Error} {deadline clock : Nat}
    {dues : List (Due β)} :
    Ended.Accounted { result := .ok 0, buffer := [], polls := [], later := dues, clock }
      direction stuck deadline [] dues where
  meets hpolls := by simp at hpolls
  goesOn hpolls := by simp at hpolls
  count hresult := by
    cases hresult
    exact ⟨rfl, Nat.le_refl _⟩
  stopped hresult := by
    cases hresult
    exact .inl rfl
  error_iff := by simp
  nothing hresult := by cases hresult
  notReady hmem := by cases hmem

/-- Every call is accounted for, in any mode. -/
theorem accounted_call {direction : Direction β} (hlawful : direction.Lawful) (mode : IoMode)
    (now : Nat) (buffer : List UInt8) (dues : List (Due β)) :
    (call direction mode now buffer dues).Accounted direction direction.stuck
      (mode.deadline now) buffer dues := by
  rw [call]
  split
  · next hnil =>
      subst hnil
      exact accounted_of_nil
  · next hsome =>
      exact accounted_of_trace hlawful
        (trace_transfer hlawful rfl rfl (List.length_pos_iff.mpr hsome))

/-- A reading call fills the front of its buffer with all that its polls took from the stream,
leaves the other slots alone, and leaves to later polls what they did not take. -/
structure Ended.Filled (ended : Ended Incoming) (buffer : List UInt8)
    (dues : List (Due Incoming)) : Prop where
  buffer : ended.buffer = ended.polls.flatMap Poll.bytes ++
    buffer.drop (ended.polls.flatMap Poll.bytes).length
  conserved : dues.flatMap Due.bytes =
    ended.polls.flatMap Poll.bytes ++ ended.later.flatMap Due.bytes

/-- Every reading call fills its buffer from the front. -/
theorem filled_read (mode : IoMode) (now : Nat) (buffer : List UInt8)
    (dues : List (Due Incoming)) : (read mode now buffer dues).Filled buffer dues := by
  rw [read, call]
  split
  · next hnil =>
      subst hnil
      exact ⟨rfl, rfl⟩
  · refine ⟨?_, bytes_of_reading (Nat.zero_le _)⟩
    have hbuffer := buffer_of_reading (mode.deadline now) now dues (Nat.zero_le buffer.length)
    rwa [Nat.zero_add] at hbuffer

theorem isPrefix_write (mode : IoMode) (now : Nat) (data : List UInt8)
    (dues : List (Due Outgoing)) :
    (write mode now data dues).polls.flatMap Poll.bytes <+: data := by
  rw [write, call]
  split
  · exact List.nil_prefix
  · next hsome =>
      exact (trace_transfer writing_lawful rfl rfl (List.length_pos_iff.mpr hsome)).bytes_of_writing

/-- Whatever a stream does and however long a call may take: a read that succeeds has put into
the front of its buffer, in order, all that its polls took, and a write that succeeds has
handed over just the bytes that it reports; either fails only if nothing moved, at the end
of the stream or where nothing is taken with an error that says so, and otherwise with the
stream's own. -/
theorem progress_is_reported (mode : IoMode) (now : Nat) :
    (∀ buffer dues,
      (read mode now buffer dues).Accounted reading .unexpectedEnd (mode.deadline now) buffer
          dues ∧
        (read mode now buffer dues).Filled buffer dues ∧
        ∀ count, (read mode now buffer dues).result = .ok count →
          (read mode now buffer dues).buffer.take count =
              (read mode now buffer dues).polls.flatMap Poll.bytes ∧
            (read mode now buffer dues).buffer.drop count = buffer.drop count) ∧
      ∀ data dues,
        (write mode now data dues).Accounted writing .writeZero (mode.deadline now) data dues ∧
          ∀ count, (write mode now data dues).result = .ok count →
            (write mode now data dues).polls.flatMap Poll.bytes = data.take count := by
  constructor
  · intro buffer dues
    have haccounted := accounted_call reading_lawful mode now buffer dues
    have hfilled := filled_read mode now buffer dues
    refine ⟨haccounted, hfilled, fun count hresult => ?_⟩
    have hcount : count = ((read mode now buffer dues).polls.flatMap Poll.bytes).length :=
      (haccounted.count hresult).1
    rw [hfilled.buffer, hcount]
    exact ⟨List.take_left, List.drop_left⟩
  · intro data dues
    have haccounted := accounted_call writing_lawful mode now data dues
    refine ⟨haccounted, fun count hresult => ?_⟩
    rw [(haccounted.count hresult).1]
    exact List.prefix_iff_eq_take.mp (isPrefix_write mode now data dues)

/-- A read that is broken off, takes what comes up to its deadline and leaves the rest; one
that meets the end first; and a write whose stream breaks after two bytes. -/
theorem progress_is_reported_broken_off :
    let interruption : Error := ⟨.interrupted, "interrupted"⟩
    let late : List (Due Incoming) :=
      [⟨0, .failure interruption⟩, ⟨7, .data [1, 2]⟩, ⟨15, .data [3]⟩, ⟨16, .data [4]⟩]
    let ended : List (Due Incoming) := [⟨0, .failure interruption⟩, ⟨0, .finished⟩]
    let broken : List (Due Outgoing) := [⟨0, .room 2⟩, ⟨0, .failure ⟨.other, "broken pipe"⟩⟩]
    (read (.blocking 10) 5 [0, 0, 0, 0, 0] late).result = .ok 3 ∧
      (read (.blocking 10) 5 [0, 0, 0, 0, 0] late).buffer.take 3 =
        (read (.blocking 10) 5 [0, 0, 0, 0, 0] late).polls.flatMap Poll.bytes ∧
      (read (.blocking 10) 5 [0, 0, 0, 0, 0] late).buffer = [1, 2, 3, 0, 0] ∧
      (read (.blocking 10) 5 [0, 0] ended).result = .error .unexpectedEnd ∧
      (read (.blocking 10) 5 [0, 0] ended).polls.flatMap Poll.bytes = [] ∧
      (write (.blocking 10) 5 [9, 8, 7] broken).result = .ok 2 ∧
      (write (.blocking 10) 5 [9, 8, 7] broken).polls.flatMap Poll.bytes =
        ([9, 8, 7] : List UInt8).take 2 := by
  intro interruption late ended broken
  obtain ⟨hread, hwrite⟩ := progress_is_reported (.blocking 10) 5
  have hlate : (read (.blocking 10) 5 [0, 0, 0, 0, 0] late).result = .ok 3 := by decide
  have hended : (read (.blocking 10) 5 [0, 0] ended).result = .error .unexpectedEnd := by decide
  have hbroken : (write (.blocking 10) 5 [9, 8, 7] broken).result = .ok 2 := by decide
  exact ⟨hlate, ((hread _ late).2.2 3 hlate).1, by decide, hended,
    ((hread _ ended).1.nothing hended).1, hbroken, (hwrite _ broken).2 2 hbroken⟩

end InstrumentLink.Stream
