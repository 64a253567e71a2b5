import InstrumentLink.Handle
import InstrumentLink.Proofs.Outcome

/-!
# What the operations of a handle do

Each operation of a handle checks the rules first and then calls the transport
at most once.  The statements here say what is left of a station in every case;
proofs about operations built from these never open their definitions again.
-/

namespace InstrumentLink.Handle

open LinkM Station

variable {σ : Type}

theorem leads_requireOpen (operation : String) (station : Station σ)
    (done : OpenMode → Station σ → Prop) (failed : LinkError → Station σ → Prop) :
    Leads (requireOpen operation) station done failed ↔
      (∀ mode, station.handle.mode = some mode → done mode station) ∧
        (station.handle.mode = none → failed (.notOpen operation) station) := by
  simp only [requireOpen, leads_bind, leads_get]
  cases station.handle.mode <;> simp

theorem isOpen_iff (handle : Handle) : handle.isOpen = true ↔ handle.mode ≠ none := by
  simp [isOpen, Option.isSome_iff_ne_none]

/-- Logging a transfer changes nothing but the log. -/
theorem logPacket_leads (transport : Transport σ) (direction : Direction)
    (bytes : List UInt8) (station : Station σ) :
    Leads (logPacket transport direction bytes) station
      (fun _ after => after.handle = station.handle ∧ after.world = station.world)
      (fun _ _ => False) := by
  simp only [logPacket, leads_bind, leads_get]
  split <;> simp [report]

def writeRefusal? (handle : Handle) (bytes : List UInt8) : Option LinkError :=
  match handle.mode with
  | none => some (.notOpen "write")
  | some .readOnly => some (.argument (.openReadOnly handle.connection.text))
  | some .readWrite => if bytes = [] then some (.argument .emptyWrite) else none

theorem writeRefusal?_eq_none_iff {handle : Handle} {bytes : List UInt8} :
    handle.writeRefusal? bytes = none ↔ handle.mode = some .readWrite ∧ bytes ≠ [] := by
  rw [writeRefusal?]
  split
  · next hmode => simp [hmode]
  · next hmode => simp [hmode]
  · next hmode => simp [hmode]

/-- A write that is refused does not reach the transport. -/
theorem write_refused (transport : Transport σ) {bytes : List UInt8} {station : Station σ}
    {refusal : LinkError} (hrefused : station.handle.writeRefusal? bytes = some refusal)
    (mode : IoMode) :
    Leads (write transport bytes mode) station (fun _ _ => False)
      (fun error after => error = refusal ∧ after = station) := by
  simp only [write, leads_bind, leads_requireOpen]
  constructor
  · intro access hmode
    rw [writeRefusal?, hmode] at hrefused
    cases access with
    | readOnly =>
        cases hrefused
        simp [OpenMode.isWritable]
    | readWrite =>
        obtain ⟨hempty, hrefusal⟩ := Option.ite_none_right_eq_some.mp hrefused
        cases hrefusal
        simp [OpenMode.isWritable, hempty]
  · intro hclosed
    rw [writeRefusal?, hclosed] at hrefused
    cases hrefused
    exact ⟨rfl, trivial⟩

/-- A handle that is open for writing passes a write on. -/
theorem write_leads_of_writable (transport : Transport σ) {bytes : List UInt8}
    {station : Station σ} (hwritable : station.handle.mode = some .readWrite)
    (hbytes : bytes ≠ []) (mode : IoMode) :
    Leads (write transport bytes mode) station
      (fun count after => after.handle = station.handle ∧
        transport.write bytes mode station.world = .ok count after.world)
      (fun error after => after.handle = station.handle ∧
        transport.write bytes mode station.world = .error error after.world) := by
  have hsome : ¬bytes.isEmpty = true := by simpa using hbytes
  simp only [write, leads_bind, leads_requireOpen]
  constructor
  · intro access haccess
    rw [hwritable] at haccess
    cases haccess
    simp only [OpenMode.isWritable, Bool.not_true, Bool.false_eq_true, if_false, if_neg hsome,
      leads_bind, call, leads_within, leads_pure]
    rw [Leads]
    split
    · next count world hwrite =>
        apply (logPacket_leads transport .send (bytes.take count) { station with world }).mono
        · intro _ after hlogged
          exact ⟨hlogged.1, hwrite.trans (congrArg _ hlogged.2.symm)⟩
        · intro _ _ hfalse
          exact hfalse.elim
    · next error world hwrite => exact ⟨trivial, hwrite⟩
  · intro hclosed
    rw [hwritable] at hclosed
    cases hclosed

section WriteRest

variable {transport : Transport σ} {total limit deadline inHand : Nat} {rest : List UInt8}
variable {station : Station σ}

theorem writeRest_of_nil :
    (writeRest transport total limit deadline inHand []).outcome station = (.ok (), station) := by
  unfold writeRest
  rfl

theorem writeRest_of_none_in_hand (hrest : rest ≠ []) :
    (writeRest transport total limit deadline 0 rest).outcome station =
      (.error (.stalled "write"), station) := by
  rw [writeRest, if_neg (by simpa using hrest)]
  rfl

theorem writeRest_of_late (hrest : rest ≠ []) (hlate : deadline ≤ transport.now station.world) :
    (writeRest transport total limit deadline (inHand + 1) rest).outcome station =
      (.error (.timeout (.writing total (total - rest.length)) limit), station) := by
  apply Leads.outcome_eq
  rw [writeRest, if_neg (by simpa using hrest)]
  simp only [leads_bind, leads_get, if_pos (Nat.sub_eq_zero_of_le hlate), leads_throw, and_self]

/-- In time, the next write is made and the loop goes on with what it left. -/
theorem writeRest_of_early (hrest : rest ≠ []) (hearly : transport.now station.world < deadline) :
    (writeRest transport total limit deadline (inHand + 1) rest).outcome station =
      (do
        let accepted ← write transport rest (.blocking (deadline - transport.now station.world))
        writeRest transport total limit deadline inHand (rest.drop accepted)).outcome station := by
  rw [writeRest, if_neg (by simpa using hrest), outcome_bind]
  change LinkM.outcome (if deadline - transport.now station.world = 0 then _ else _) station = _
  rw [if_neg (Nat.sub_ne_zero_of_lt hearly)]

end WriteRest

/-- How a read through a handle can fail, and what it leaves behind. -/
inductive ReadFailure (transport : Transport σ) (room : Nat) (mode : IoMode)
    (station : Station σ) : LinkError → Station σ → Prop
  | closed (hclosed : station.handle.mode = none) :
      ReadFailure transport room mode station (.notOpen "read") station
  | noRoom (hroom : room = 0) :
      ReadFailure transport room mode station (.argument .emptyRead) station
  | transport {error : LinkError} {world : σ}
      (hread : transport.read room mode station.world = .error error world) :
      ReadFailure transport room mode station error { station with world }

theorem ReadFailure.handle_eq {transport : Transport σ} {room : Nat} {mode : IoMode}
    {station after : Station σ} {error : LinkError}
    (h : ReadFailure transport room mode station error after) :
    after.handle = station.handle := by
  cases h <;> rfl

theorem read_leads (transport : Transport σ) (room : Nat) (mode : IoMode)
    (station : Station σ) :
    Leads (read transport room mode) station
      (fun bytes after => after.handle = station.handle ∧
        transport.read room mode station.world = .ok bytes after.world)
      (ReadFailure transport room mode station) := by
  simp only [read, leads_bind, leads_requireOpen]
  constructor
  · intro _ _
    split
    · next hroom => simpa using ReadFailure.noRoom hroom
    · simp only [leads_bind, leads_pure, call, leads_within]
      rw [Leads]
      split
      · next bytes world hread =>
          apply (logPacket_leads transport .receive bytes { station with world }).mono
          · intro _ after hlogged
            exact ⟨hlogged.1, hread.trans (congrArg _ hlogged.2.symm)⟩
          · intro _ _ hfalse
            exact hfalse.elim
      · next error world hread => exact .transport hread
  · intro hclosed
    exact .closed hclosed

inductive FlushFailure (transport : Transport σ) (station : Station σ) :
    LinkError → Station σ → Prop
  | closed (hclosed : station.handle.mode = none) :
      FlushFailure transport station (.notOpen "flush") station
  | transport {error : LinkError} {world : σ}
      (hflush : transport.flush station.world = .error error world) :
      FlushFailure transport station error { station with world }

theorem flush_leads (transport : Transport σ) (station : Station σ) :
    Leads (flush transport) station
      (fun _ after => ∃ world, transport.flush station.world = .ok ⟨⟩ world ∧
        after = { station with world })
      (FlushFailure transport station) := by
  simp only [flush, leads_bind, leads_requireOpen]
  constructor
  · intro _ _
    simp only [call, leads_within]
    rw [Leads]
    split
    · next value world hflush => exact ⟨world, hflush, rfl⟩
    · next error world hflush => exact .transport hflush
  · intro hclosed
    exact .closed hclosed

/-- Discarding through a handle changes the world as the link does, or not at all. -/
theorem flush_relates (transport : Transport σ) (related : σ → σ → Prop)
    (hrefl : ∀ world, related world world)
    (hflush : ∀ world, related world (transport.flush.outcome world).2) (station : Station σ) :
    ((flush transport).outcome station).2.handle = station.handle ∧
      related station.world ((flush transport).outcome station).2.world := by
  have hends := hflush station.world
  rw [outcome] at hends
  refine (leads_iff_world _ _ fun after : Station σ =>
    after.handle = station.handle ∧ related station.world after.world).mp ?_
  apply (flush_leads transport station).mono
  · intro _ after hdone
    obtain ⟨world, hworld, rfl⟩ := hdone
    rw [hworld] at hends
    exact ⟨rfl, hends⟩
  · intro error after hfailed
    cases hfailed with
    | closed _ => exact ⟨rfl, hrefl _⟩
    | transport hworld =>
        rw [hworld] at hends
        exact ⟨rfl, hends⟩

/-- How opening can fail, and what it leaves behind. -/
inductive OpenFailure (transport : Transport σ) (mode : OpenMode) (station : Station σ) :
    LinkError → Station σ → Prop
  | alreadyOpen (hopen : station.handle.mode ≠ none) :
      OpenFailure transport mode station
        (.argument (.alreadyOpen station.handle.connection.text)) station
  | transport {error : LinkError} {world : σ} (hclosed : station.handle.mode = none)
      (hfails : transport.openLink mode station.world = .error error world) :
      OpenFailure transport mode station error { station with world }

theorem OpenFailure.handle_eq {transport : Transport σ} {mode : OpenMode}
    {station after : Station σ} {error : LinkError}
    (h : OpenFailure transport mode station error after) : after.handle = station.handle := by
  cases h <;> rfl

theorem openLink_leads (transport : Transport σ) (mode : OpenMode) (station : Station σ) :
    Leads (openLink transport mode) station
      (fun _ after => station.handle.mode = none ∧
        after.handle = { station.handle with mode := some mode } ∧
        ∃ lines, transport.openLink mode station.world = .ok lines after.world)
      (OpenFailure transport mode station) := by
  simp only [openLink, leads_bind, leads_get]
  split
  · next hopen =>
      simpa using OpenFailure.alreadyOpen ((isOpen_iff _).mp hopen)
  · next hnot =>
      have hclosed : station.handle.mode = none := by
        simpa using mt (isOpen_iff _).mpr hnot
      simp only [leads_bind, leads_modify, call, leads_within, reportAll, setHandle, report]
      rw [Leads]
      split
      · next lines world hopens => exact ⟨hclosed, trivial, lines, hopens⟩
      · next error world hfails => exact .transport hclosed hfails

def closed (handle : Handle) : Handle :=
  { handle with mode := none, events := handle.events.disarm }

@[simp]
theorem closed_mode (handle : Handle) : handle.closed.mode = none := rfl

@[simp]
theorem closed_events (handle : Handle) : handle.closed.events = handle.events.disarm := rfl

/-- How closing can fail, and what it leaves behind: a link that was open is
closed all the same. -/
inductive CloseFailure (transport : Transport σ) (station : Station σ) :
    LinkError → Station σ → Prop
  | notOpen (hclosed : station.handle.mode = none) :
      CloseFailure transport station (.notOpen "close") station
  | transport {error : LinkError} {world : σ} (hopen : station.handle.mode ≠ none)
      (hfails : transport.closeLink station.world = .error error world) :
      CloseFailure transport station error { station with handle := station.handle.closed, world }

theorem closeLink_leads (transport : Transport σ) (station : Station σ) :
    Leads (closeLink transport) station
      (fun _ after => station.handle.mode ≠ none ∧ after.handle = station.handle.closed ∧
        transport.closeLink station.world = .ok ⟨⟩ after.world)
      (CloseFailure transport station) := by
  simp only [closeLink, leads_bind, leads_requireOpen]
  constructor
  · intro mode hmode
    have hopen : station.handle.mode ≠ none := by simp [hmode]
    simp only [leads_modify, setHandle, call, leads_within, leads_get, report]
    rw [Leads]
    split
    · next value world hcloses => exact ⟨hopen, rfl, hcloses⟩
    · next error world hfails => exact .transport hopen hfails
  · intro hclosed
    exact .notOpen hclosed

inductive SourceFailure (transport : Transport σ) (station : Station σ) :
    LinkError → Station σ → Prop
  | notOpen (hclosed : station.handle.mode = none) :
      SourceFailure transport station (.notOpen "register_for_events") station
  | transport {error : LinkError} {world : σ}
      (hfails : transport.eventSource station.world = .error error world) :
      SourceFailure transport station error { station with world }

theorem SourceFailure.handle_eq {transport : Transport σ} {station after : Station σ}
    {error : LinkError} (h : SourceFailure transport station error after) :
    after.handle = station.handle := by
  cases h <;> rfl

theorem eventSource_leads (transport : Transport σ) (station : Station σ) :
    Leads (eventSource transport) station
      (fun source after => station.handle.mode ≠ none ∧ ∃ world,
        transport.eventSource station.world = .ok source world ∧ after = { station with world })
      (SourceFailure transport station) := by
  simp only [eventSource, leads_bind, leads_requireOpen]
  constructor
  · intro mode hmode
    simp only [call, leads_within]
    rw [Leads]
    split
    · next source world hsource => exact ⟨by simp [hmode], world, hsource, rfl⟩
    · next error world hfails => exact .transport hfails
  · intro hclosed
    exact .notOpen hclosed

inductive ParamsFailure (transport : Transport σ) (params : LineParams) (station : Station σ) :
    LinkError → Station σ → Prop
  | closed (hclosed : station.handle.mode = none) :
      ParamsFailure transport params station (.notOpen "set_frame_params") station
  | invalid {error : LinkError} (hinvalid : params.validate = .error error) :
      ParamsFailure transport params station error station
  | transport {error : LinkError} {world : σ} (hvalid : params.validate = .ok ())
      (hfails : transport.setLineParams params station.world = .error error world) :
      ParamsFailure transport params station error { station with world }

theorem setLineParams_leads (transport : Transport σ) (params : LineParams)
    (station : Station σ) :
    Leads (setLineParams transport params) station
      (fun _ after => params.validate = .ok () ∧ ∃ world,
        transport.setLineParams params station.world = .ok ⟨⟩ world ∧
          after =
            { handle := { station.handle with params := some params }, world
              log := station.log ++ [.paramsApplied station.handle.connection params] })
      (ParamsFailure transport params station) := by
  simp only [setLineParams, leads_bind, leads_requireOpen, leads_ofExcept]
  constructor
  · intro _ _
    constructor
    · intro _ hvalid
      simp only [call, leads_within, leads_get, report, setHandle, leads_modify]
      rw [Leads]
      split
      · next _ world happlies => exact ⟨hvalid, world, happlies, rfl⟩
      · next error world hfails => exact .transport hvalid hfails
    · intro error hinvalid
      exact .invalid hinvalid
  · intro hclosed
    exact .closed hclosed

end InstrumentLink.Handle
