import InstrumentLink.Device
import InstrumentLink.Proofs.CallRecord
import InstrumentLink.Proofs.HandleRules
import Mathlib.Logic.Relation

/-!
# Moves of a station

Whatever is done with an open handle, on its own, through a framed link or through a
device, comes down to moves of two kinds: one operation of the transport is called,
which the session permits, or the slot of its event registration is adjusted.  What a
call does to the station is worked out here once, for all operations; a statement
about everything that is done with a handle has two kinds of moves to look at.
-/

namespace InstrumentLink

open LinkM Station
open Transport (Operation)

variable {σ τ α β : Type}

def Transport.Operation.Inside : Operation → Prop
  | openLink _ | closeLink => False
  | _ => True

def Transport.Operation.settle (handle : Handle) (succeeded : Bool) : Operation → Handle
  | openLink mode => if succeeded then { handle with mode := some mode } else handle
  | closeLink => handle.closed
  | setLineParams params => if succeeded then { handle with params := some params } else handle
  | _ => handle

def Handle.packets (handle : Handle) (backend : String) (direction : Direction)
    (bytes : List UInt8) : List LogLine :=
  if handle.packetLogging && !bytes.isEmpty then [.packet backend direction bytes] else []

/-- Calls an operation of a transport; the answer is what the handle logs of it. -/
def Transport.ask (transport : Transport σ) (handle : Handle) :
    Operation → LinkM σ (List LogLine)
  | .openLink mode => do
      return (← transport.openLink mode) ++
        [.opened handle.connection mode transport.backend]
  | .closeLink => do
      transport.closeLink
      return [.closed handle.connection]
  | .write bytes mode => do
      return handle.packets transport.backend .send (bytes.take (← transport.write bytes mode))
  | .read room mode => do
      return handle.packets transport.backend .receive (← transport.read room mode)
  | .setLineParams params => do
      transport.setLineParams params
      return [.paramsApplied handle.connection params]
  | .setHandshakeLines rts dtr => do
      transport.setHandshakeLines rts dtr
      return []
  | .charFormat => do
      let _ ← transport.charFormat
      return []
  | .queuedInput => do
      let _ ← transport.queuedInput
      return []
  | .flush => do
      transport.flush
      return []
  | .drain => do
      transport.drain
      return []
  | .eventSource => do
      let _ ← transport.eventSource
      return []

/-- What a handle logs of a call that failed. -/
def Transport.Operation.complaint (handle : Handle) (error : LinkError) :
    Operation → List LogLine
  | queuedInput => [.queueUnknown handle.connection error]
  | _ => []

theorem Transport.Operation.complaint_eq_nil {operation : Operation}
    (hother : operation ≠ queuedInput) (handle : Handle) (error : LinkError) :
    operation.complaint handle error = [] := by
  cases operation with
  | queuedInput => exact absurd rfl hother
  | _ => rfl

def Station.called (transport : Transport σ) (station : Station σ) (operation : Operation) :
    Station σ :=
  match transport.ask station.handle operation station.world with
  | .ok lines world =>
      { handle := operation.settle station.handle true, world, log := station.log ++ lines }
  | .error error world =>
      { handle := operation.settle station.handle false, world
        log := station.log ++ operation.complaint station.handle error }

/-- What becomes of a station in one go, while its session goes on. -/
inductive Move (transport : Transport σ) (before : Station σ) : Station σ → Prop
  | call {operation : Operation} (hinside : operation.Inside)
      (hpermitted : operation.Permitted before.handle.mode) :
      Move transport before (before.called transport operation)
  | adjust (events : EventSlot) :
      Move transport before { before with handle := { before.handle with events } }

def Moves (transport : Transport σ) : Station σ → Station σ → Prop :=
  Relation.ReflTransGen (Move transport)

namespace LinkM

/-- An operation does nothing but make moves at the station that is seen in its world. -/
def OfMoves (transport : Transport σ) (view : τ → Station σ) (action : LinkM τ α) : Prop :=
  ∀ world, Moves transport (view world) (view (action.outcome world).2)

variable {transport : Transport σ} {view : τ → Station σ}
variable {action : LinkM τ α} {next : α → LinkM τ β}

theorem ofMoves_iff : OfMoves transport view action ↔
    ∀ world, Leads action world (fun _ after => Moves transport (view world) (view after))
      (fun _ after => Moves transport (view world) (view after)) :=
  forall_congr' fun world =>
    (leads_iff_world action world fun after => Moves transport (view world) (view after)).symm

theorem ofMoves_of_eq (hsame : ∀ world, view (action.outcome world).2 = view world) :
    OfMoves transport view action := by
  intro world
  rw [hsame]
  exact .refl

theorem ofMoves_pure (value : α) : OfMoves transport view (pure value : LinkM τ α) :=
  ofMoves_of_eq fun _ => rfl

theorem ofMoves_throw (error : LinkError) : OfMoves transport view (throw error : LinkM τ α) :=
  ofMoves_of_eq fun _ => rfl

theorem ofMoves_get : OfMoves transport view (get : LinkM τ τ) :=
  ofMoves_of_eq fun _ => rfl

theorem ofMoves_modify {change : τ → τ} (hchange : ∀ world, view (change world) = view world) :
    OfMoves transport view (modify change : LinkM τ PUnit) :=
  ofMoves_of_eq hchange

theorem ofMoves_ofExcept (result : Except LinkError α) :
    OfMoves transport view (LinkM.ofExcept result : LinkM τ α) := by
  cases result with
  | ok value => exact ofMoves_pure value
  | error error => exact ofMoves_throw error

/-- Moves of one operation are followed by those of the next. -/
theorem OfMoves.bind (haction : OfMoves transport view action)
    (hnext : ∀ value, OfMoves transport view (next value)) :
    OfMoves transport view (action >>= next) := by
  intro world
  have hfirst := haction world
  rw [outcome_bind]
  rcases hrun : action.outcome world with ⟨error | value, after⟩
  · rwa [hrun] at hfirst
  · rw [hrun] at hfirst
    exact hfirst.trans (hnext value after)

theorem OfMoves.attempt (haction : OfMoves transport view action) :
    OfMoves transport view (LinkM.attempt action) := by
  rw [ofMoves_iff] at haction ⊢
  intro world
  rw [leads_attempt]
  exact haction world

theorem OfMoves.within {part : α → τ} {put : α → τ → α} {inner : LinkM τ β}
    (hinner : OfMoves transport view inner) (hput : ∀ world left, part (put world left) = left) :
    OfMoves transport (fun world => view (part world)) (LinkM.within part put inner) := by
  rw [ofMoves_iff] at hinner ⊢
  intro world
  rw [leads_within]
  simp only [hput]
  exact hinner (part world)

end LinkM

namespace Handle

variable (transport : Transport σ)

/-- What a handle calls, and what the station becomes if it logs what belongs to it. -/
theorem leads_ask {operation : Operation} {action : LinkM σ α} {lines : α → List LogLine}
    {station between : Station σ} (hworld : between.world = station.world)
    (hask : transport.ask station.handle operation = do return lines (← action)) :
    Leads (call action) between
      (fun value after => ∃ world, after = { between with world } ∧
        station.called transport operation =
          { handle := operation.settle station.handle true, world
            log := station.log ++ lines value })
      (fun error after => ∃ world, after = { between with world } ∧
        station.called transport operation =
          { handle := operation.settle station.handle false, world
            log := station.log ++ operation.complaint station.handle error }) := by
  rw [call, leads_within, hworld, Leads]
  cases haction : action station.world with
  | ok value world =>
      exact ⟨world, rfl, by simp [called, hask, haction, bind, EStateM.bind, pure, EStateM.pure]⟩
  | error error world => exact ⟨world, rfl, by simp [called, hask, haction, bind, EStateM.bind]⟩

theorem leads_logPacket (direction : Direction) (bytes : List UInt8) (station : Station σ) :
    Leads (logPacket transport direction bytes) station
      (fun _ after => after = { station with
        log := station.log ++ station.handle.packets transport.backend direction bytes })
      (fun _ _ => False) := by
  simp only [logPacket, leads_bind, leads_get, packets]
  split
  · rfl
  · simp

variable {transport}

/-- A call that moves bytes, which are logged. -/
theorem leads_transfer {operation : Operation} {action : LinkM σ α} {direction : Direction}
    {station : Station σ} (bytes : α → List UInt8) (hinside : operation.Inside)
    (hpermitted : operation.Permitted station.handle.mode)
    (hsettle : ∀ succeeded, operation.settle station.handle succeeded = station.handle)
    (hquiet : operation ≠ .queuedInput)
    (hask : transport.ask station.handle operation = do
      return station.handle.packets transport.backend direction (bytes (← action))) :
    Leads (do
        let value ← call action
        logPacket transport direction (bytes value)
        return value) station
      (fun _ after => Moves transport station after)
      (fun _ after => Moves transport station after) := by
  have hcalled : Moves transport station (station.called transport operation) :=
    .single (.call hinside hpermitted)
  simp only [leads_bind, leads_pure]
  apply (leads_ask transport rfl hask).mono
  · rintro value between ⟨world, rfl, hcall⟩
    rw [hcall, hsettle] at hcalled
    apply (leads_logPacket transport direction (bytes value) { station with world }).mono
    · rintro _ after rfl
      exact hcalled
    · intro _ _ hfalse
      exact hfalse.elim
  · rintro _ after ⟨world, rfl, hcall⟩
    rwa [hcall, hsettle, Operation.complaint_eq_nil hquiet, List.append_nil] at hcalled

/-- A call of which nothing is logged and nothing remembered. -/
theorem leads_quiet {operation : Operation} {action : LinkM σ α} {station : Station σ}
    (hinside : operation.Inside) (hpermitted : operation.Permitted station.handle.mode)
    (hsettle : ∀ succeeded, operation.settle station.handle succeeded = station.handle)
    (hquiet : operation ≠ .queuedInput)
    (hask : transport.ask station.handle operation = do let _ ← action; return []) :
    Leads (call action) station (fun _ after => Moves transport station after)
      (fun _ after => Moves transport station after) := by
  have hcalled : Moves transport station (station.called transport operation) :=
    .single (.call hinside hpermitted)
  apply (leads_ask transport rfl hask).mono
  · rintro _ _ ⟨world, rfl, hcall⟩
    rwa [hcall, hsettle, List.append_nil] at hcalled
  · rintro _ _ ⟨world, rfl, hcall⟩
    rwa [hcall, hsettle, Operation.complaint_eq_nil hquiet, List.append_nil] at hcalled

variable (transport)

/-- A write is one call, if the handle lets it through, and what is logged of it. -/
theorem ofMoves_write (bytes : List UInt8) (mode : IoMode) :
    OfMoves transport id (write transport bytes mode) := by
  rw [ofMoves_iff]
  intro station
  simp only [write, leads_bind, leads_requireOpen]
  constructor
  · intro access hmode
    split
    · exact .refl
    · next hwritable =>
        split
        · exact .refl
        · next hbytes =>
            have haccess : access = .readWrite := by
              cases access with
              | readOnly => simp [OpenMode.isWritable] at hwritable
              | readWrite => rfl
            have hpermitted : (Operation.write bytes mode).Permitted station.handle.mode :=
              ⟨hmode.trans (congrArg some haccess), by simpa using hbytes⟩
            have hinside : (Operation.write bytes mode).Inside := trivial
            exact leads_transfer (fun accepted => bytes.take accepted) hinside hpermitted
              (fun _ => rfl) (by simp) rfl
  · intro _
    exact .refl

theorem ofMoves_read (room : Nat) (mode : IoMode) :
    OfMoves transport id (read transport room mode) := by
  rw [ofMoves_iff]
  intro station
  simp only [read, leads_bind, leads_requireOpen]
  constructor
  · intro access hmode
    split
    · exact .refl
    · next hroom =>
        have hpermitted : (Operation.read room mode).Permitted station.handle.mode :=
          ⟨hmode ▸ Option.some_ne_none access, hroom⟩
        have hinside : (Operation.read room mode).Inside := trivial
        exact leads_transfer id hinside hpermitted (fun _ => rfl) (by simp) rfl
  · intro _
    exact .refl

/-- An operation that asks for an open handle and nothing else. -/
theorem ofMoves_guarded (name : String) {operation : Operation} {action : LinkM σ α}
    (hinside : operation.Inside) (hpermitted : ∀ mode, operation.Permitted (some mode))
    (hsettle : ∀ handle succeeded, operation.settle handle succeeded = handle)
    (hquiet : operation ≠ .queuedInput)
    (hask : ∀ handle, transport.ask handle operation = do let _ ← action; return []) :
    OfMoves transport id (requireOpen name >>= fun _ => call action) := by
  rw [ofMoves_iff]
  intro station
  rw [leads_bind, leads_requireOpen]
  constructor
  · intro mode hmode
    exact leads_quiet hinside (hmode ▸ hpermitted mode) (hsettle _) hquiet (hask _)
  · intro _
    exact .refl

theorem ofMoves_setHandshakeLines (rts dtr : Option Bool) :
    OfMoves transport id (setHandshakeLines transport rts dtr) := by
  have hinside : (Operation.setHandshakeLines rts dtr).Inside := trivial
  exact ofMoves_guarded transport _ hinside (fun _ => Option.some_ne_none _) (fun _ _ => rfl)
    (by simp) (fun _ => rfl)

theorem ofMoves_charFormat : OfMoves transport id (charFormat transport) := by
  have hinside : Operation.charFormat.Inside := trivial
  exact ofMoves_guarded transport _ hinside (fun _ => Option.some_ne_none _) (fun _ _ => rfl)
    (by simp) (fun _ => rfl)

theorem ofMoves_flush : OfMoves transport id (flush transport) := by
  have hinside : Operation.flush.Inside := trivial
  exact ofMoves_guarded transport _ hinside (fun _ => Option.some_ne_none _) (fun _ _ => rfl)
    (by simp) (fun _ => rfl)

theorem ofMoves_drain : OfMoves transport id (drain transport) := by
  have hinside : Operation.drain.Inside := trivial
  exact ofMoves_guarded transport _ hinside (fun _ => Option.some_ne_none _) (fun _ _ => rfl)
    (by simp) (fun _ => rfl)

theorem ofMoves_eventSource : OfMoves transport id (eventSource transport) := by
  have hinside : Operation.eventSource.Inside := trivial
  exact ofMoves_guarded transport _ hinside (fun _ => Option.some_ne_none _) (fun _ _ => rfl)
    (by simp) (fun _ => rfl)

theorem ofMoves_transferTimeout? (bytes : Nat) :
    OfMoves transport id (transferTimeout? transport bytes) :=
  (ofMoves_charFormat transport).attempt.bind fun _ => ofMoves_pure _

/-- A link that cannot tell is logged, and is no failure. -/
theorem ofMoves_queuedInput : OfMoves transport id (queuedInput transport) := by
  rw [ofMoves_iff]
  intro station
  simp only [queuedInput, leads_bind, leads_get]
  split
  · next hopen =>
      have hinside : Operation.queuedInput.Inside := trivial
      have hpermitted : Operation.queuedInput.Permitted station.handle.mode :=
        (isOpen_iff _).mp hopen
      have hcalled : Moves transport station (station.called transport .queuedInput) :=
        .single (.call hinside hpermitted)
      have hask : transport.ask station.handle .queuedInput = do
          let _ ← transport.queuedInput
          return [] := rfl
      rw [leads_bind, leads_attempt]
      apply (leads_ask transport rfl hask).mono
      · rintro _ _ ⟨world, rfl, hcall⟩
        rwa [hcall, List.append_nil] at hcalled
      · rintro _ _ ⟨world, rfl, hcall⟩
        simp only [leads_bind, leads_get, report, leads_modify]
        rwa [hcall] at hcalled
  · exact .refl

/-- Valid parameters reach the link of an open handle, and no others. -/
theorem ofMoves_setLineParams (params : LineParams) :
    OfMoves transport id (setLineParams transport params) := by
  rw [ofMoves_iff]
  intro station
  simp only [setLineParams, leads_bind, leads_requireOpen, leads_ofExcept]
  constructor
  · intro access hmode
    constructor
    · intro _ hvalid
      have hinside : (Operation.setLineParams params).Inside := trivial
      have hpermitted : (Operation.setLineParams params).Permitted station.handle.mode :=
        ⟨hmode ▸ Option.some_ne_none access, hvalid⟩
      have hcalled : Moves transport station
          (station.called transport (.setLineParams params)) := .single (.call hinside hpermitted)
      have hask : transport.ask station.handle (.setLineParams params) = do
          let _ ← transport.setLineParams params
          return [.paramsApplied station.handle.connection params] := rfl
      apply (leads_ask transport rfl hask).mono
      · rintro _ _ ⟨world, rfl, hcall⟩
        simp only [leads_get, report, setHandle, leads_modify]
        rwa [hcall] at hcalled
      · rintro _ _ ⟨world, rfl, hcall⟩
        have hquiet : Operation.setLineParams params ≠ .queuedInput := by simp
        rwa [hcall, Operation.complaint_eq_nil hquiet, List.append_nil] at hcalled
    · intro _ _
      exact .refl
  · intro _
    exact .refl

/-- A handle is opened by one call, or refuses. -/
theorem after_openLink (mode : OpenMode) (station : Station σ) :
    ((openLink transport mode).outcome station).2 = station ∨
      (Operation.openLink mode).Permitted station.handle.mode ∧
        ((openLink transport mode).outcome station).2 =
          station.called transport (.openLink mode) := by
  have hask : transport.ask station.handle (.openLink mode) = do
      return (← transport.openLink mode) ++
        [.opened station.handle.connection mode transport.backend] := rfl
  refine (leads_iff_world _ _ fun after => after = station ∨
    (Operation.openLink mode).Permitted station.handle.mode ∧
      after = station.called transport (.openLink mode)).mp ?_
  simp only [openLink, leads_bind, leads_get]
  split
  · exact .inl rfl
  · next hnot =>
      have hclosed : station.handle.mode = none := by simpa using mt (isOpen_iff _).mpr hnot
      simp only [leads_bind, reportAll, setHandle, report, leads_modify]
      apply (leads_ask transport rfl hask).mono
      · rintro lines _ ⟨world, rfl, hcall⟩
        refine .inr ⟨hclosed, ?_⟩
        rw [hcall, ← List.append_assoc]
        rfl
      · rintro _ _ ⟨world, rfl, hcall⟩
        have hquiet : Operation.openLink mode ≠ .queuedInput := by simp
        rw [Operation.complaint_eq_nil hquiet, List.append_nil] at hcall
        exact .inr ⟨hclosed, hcall.symm⟩

/-- A handle is closed by one call, or refuses. -/
theorem after_closeLink (station : Station σ) :
    ((closeLink transport).outcome station).2 = station ∨
      Operation.closeLink.Permitted station.handle.mode ∧
        ((closeLink transport).outcome station).2 = station.called transport .closeLink := by
  have hask : transport.ask station.handle .closeLink = do
      let _ ← transport.closeLink
      return [.closed station.handle.connection] := rfl
  refine (leads_iff_world _ _ fun after => after = station ∨
    Operation.closeLink.Permitted station.handle.mode ∧
      after = station.called transport .closeLink).mp ?_
  simp only [closeLink, leads_bind, leads_requireOpen]
  constructor
  · intro mode hmode
    have hopen : station.handle.mode ≠ none := hmode ▸ Option.some_ne_none mode
    simp only [setHandle, leads_modify, report, leads_get]
    have hworld : ({ station with handle := station.handle.closed } : Station σ).world =
        station.world := rfl
    apply (leads_ask transport hworld hask).mono
    · rintro _ _ ⟨world, rfl, hcall⟩
      exact .inr ⟨hopen, hcall.symm⟩
    · rintro _ _ ⟨world, rfl, hcall⟩
      have hquiet : Operation.closeLink ≠ .queuedInput := by simp
      rw [Operation.complaint_eq_nil hquiet, List.append_nil] at hcall
      exact .inr ⟨hopen, hcall.symm⟩
  · intro _
    exact .inl trivial

theorem ofMoves_adjust {change : Handle → Handle}
    (hchange : ∀ handle, ∃ events, change handle = { handle with events }) :
    OfMoves transport id (setHandle change : LinkM (Station σ) Unit) := by
  intro station
  obtain ⟨events, hhandle⟩ := hchange station.handle
  have hmove : Moves transport station
      { station with handle := { station.handle with events } } := .single (.adjust events)
  rwa [← hhandle] at hmove

/-- What the slot and the reactor do to each other concerns no transport. -/
theorem ofMoves_registerForEvents (wish : EventSlot.Wish) :
    OfMoves transport Prod.fst (registerForEvents transport wish) := by
  apply ((ofMoves_eventSource transport).within fun _ _ => rfl).bind
  intro source
  rw [ofMoves_iff]
  intro both
  simp only [leads_bind, leads_get, leads_set, leads_ofExcept]
  exact ⟨fun _ _ => .single (.adjust _), fun _ _ => .single (.adjust _)⟩

theorem ofMoves_unregisterFromEvents :
    OfMoves transport Prod.fst (unregisterFromEvents : LinkM (Station σ × Reactor) Unit) := by
  rw [ofMoves_iff]
  intro both
  simp only [unregisterFromEvents, leads_bind, leads_get, leads_set, leads_ofExcept]
  exact ⟨fun _ _ => .single (.adjust _), fun _ _ => .single (.adjust _)⟩

/-- The induction is on the writes in hand, as in `writeRest`. -/
theorem ofMoves_writeRest (total limit deadline calls : Nat) (rest : List UInt8) :
    OfMoves transport id (writeRest transport total limit deadline calls rest) := by
  induction calls generalizing rest with
  | zero =>
      rw [writeRest]
      split
      · exact ofMoves_pure _
      · exact ofMoves_throw _
  | succ calls ih =>
      rw [writeRest]
      split
      · exact ofMoves_pure _
      · apply ofMoves_get.bind
        intro station
        dsimp only
        split
        · exact ofMoves_throw _
        · exact (ofMoves_write transport rest _).bind fun accepted => ih (rest.drop accepted)

theorem ofMoves_writeAll (bytes : List UInt8) (limit : Nat) :
    OfMoves transport id (writeAll transport bytes limit) :=
  ofMoves_get.bind fun _ => ofMoves_writeRest transport _ _ _ _ bytes

end Handle

namespace FramedLink

variable (transport : Transport σ)

theorem ofMoves_sendPdu (config : LinkConfig) (pdu : List UInt8) :
    OfMoves transport id (sendPdu transport config pdu) :=
  (ofMoves_ofExcept _).bind fun frame => Handle.ofMoves_writeAll transport frame _

/-- The induction is on the reads in hand, as in `gather`. -/
theorem ofMoves_gather (timeout : Nat) (part : String) (total calls since : Nat)
    (got : List UInt8) :
    OfMoves transport id (gather transport timeout part total calls since got) := by
  induction calls generalizing since got with
  | zero =>
      rw [gather]
      split
      · exact ofMoves_pure _
      · exact ofMoves_pure _
  | succ calls ih =>
      rw [gather]
      split
      · exact ofMoves_pure _
      · apply (Handle.ofMoves_read transport _ _).attempt.bind
        intro result
        apply ofMoves_get.bind
        intro station
        dsimp only
        split
        · exact ofMoves_pure _
        · split
          · exact ofMoves_pure _
          · exact ih _ _
        · exact ih _ _

theorem ofMoves_receivePart (timeout : Nat) (part : String) (total : Nat) :
    OfMoves transport id (receivePart transport timeout part total) :=
  ofMoves_get.bind fun _ => ofMoves_gather transport timeout part total _ _ []

theorem ofMoves_readExact (timeout : Nat) (part : String) (total : Nat) :
    OfMoves transport id (readExact transport timeout part total) := by
  apply (ofMoves_receivePart transport timeout part total).bind
  intro received
  split
  · exact ofMoves_throw _
  · exact ofMoves_pure _

theorem ofMoves_readAddress (config : LinkConfig) :
    OfMoves transport id (readAddress transport config) := by
  apply (ofMoves_readExact transport _ _ _).bind
  intro bytes
  dsimp only
  split
  · exact ofMoves_throw _
  · exact ofMoves_pure _

theorem ofMoves_readChecksum (config : LinkConfig) (pdu : List UInt8) :
    OfMoves transport id (readChecksum transport config pdu) :=
  (ofMoves_readExact transport _ _ _).bind fun _ => ofMoves_ofExcept _

end FramedLink

namespace Device

variable (transport : Transport σ)

section Parts

variable {transport}

theorem ofMoves_onStation {action : LinkM (Station σ) α} (haction : OfMoves transport id action) :
    OfMoves transport Attached.station (onStation action) :=
  haction.within fun _ _ => rfl

theorem ofMoves_setState (state : ReplyState) :
    OfMoves transport Attached.station (setState state : LinkM (Attached σ) Unit) :=
  ofMoves_modify fun _ => rfl

theorem ofMoves_setOutstanding (outstanding : Bool) :
    OfMoves transport Attached.station (setOutstanding outstanding : LinkM (Attached σ) Unit) :=
  ofMoves_modify fun _ => rfl

end Parts

theorem ofMoves_send (request : Request) :
    OfMoves transport Attached.station (send transport request) := by
  apply ofMoves_get.bind
  intro attached
  dsimp only
  split
  · exact ofMoves_throw _
  · apply (ofMoves_ofExcept _).bind
    intro pdu
    apply (ofMoves_onStation (FramedLink.ofMoves_sendPdu transport _ _)).bind
    intro _
    exact (ofMoves_setOutstanding true).bind fun _ => ofMoves_setState _

/-- A reply is read in two goes: its first byte, and as much as that one announces. -/
theorem ofMoves_accumulate (request : Request) :
    OfMoves transport Attached.station (accumulate transport request) := by
  apply ofMoves_get.bind
  intro attached
  apply (ofMoves_setState _).bind
  intro _
  apply (ofMoves_onStation (FramedLink.ofMoves_readExact transport _ _ _)).bind
  intro first
  dsimp only
  split
  · exact ofMoves_throw _
  · apply (ofMoves_setState _).bind
    intro _
    apply (ofMoves_onStation (FramedLink.ofMoves_readExact transport _ _ _)).bind
    intro rest
    exact (ofMoves_setState _).bind fun _ => ofMoves_ofExcept _

theorem ofMoves_readReply (request : Request) :
    OfMoves transport Attached.station (readReply transport request) := by
  apply ofMoves_get.bind
  intro attached
  apply (ofMoves_onStation (FramedLink.ofMoves_readAddress transport _)).bind
  intro _
  apply (ofMoves_accumulate transport request).bind
  intro pdu
  apply (ofMoves_onStation (FramedLink.ofMoves_readChecksum transport _ _)).bind
  intro _
  exact ofMoves_ofExcept _

theorem ofMoves_receive (request : Request) :
    OfMoves transport Attached.station (receive transport request) := by
  apply (ofMoves_setOutstanding false).bind
  intro _
  apply (ofMoves_readReply transport request).attempt.bind
  intro result
  split
  · exact ofMoves_pure _
  · exact ofMoves_throw _
  · apply (ofMoves_setState _).bind
    intro _
    apply (ofMoves_onStation (Handle.ofMoves_flush transport)).attempt.bind
    intro _
    exact ofMoves_throw _

theorem ofMoves_cancel : OfMoves transport Attached.station (cancel transport) := by
  apply (ofMoves_setOutstanding false).bind
  intro _
  exact (ofMoves_setState _).bind fun _ => ofMoves_onStation (Handle.ofMoves_flush transport)

theorem ofMoves_transact (request : Request) :
    OfMoves transport Attached.station (transact transport request) :=
  (ofMoves_send transport request).bind fun _ => ofMoves_receive transport request

end Device

end InstrumentLink
