import InstrumentLink.Proofs.TimedReception
import InstrumentLink.Proofs.TransportUse
import InstrumentLink.Proofs.WireTime
import Mathlib.GroupTheory.GroupAction.Ring

/-!
# A handle and its link agree on the line parameters

The parameters of a line are kept twice, by the handle and by the link behind it.
Both change only when the link takes new ones, which have been validated then; a
refusal at any point leaves both as they were.  So they agree after every run of
operations, and what the link says about its characters belongs to valid parameters.
-/

namespace InstrumentLink

open LinkM
open Transport (Operation)

variable {σ τ α β : Type}

namespace Transport.Operation

def configure (configured : Option LineParams) :
    Operation → Option LineParams
  | setLineParams params => some params
  | _ => configured

theorem params_settle (operation : Operation) (handle : Handle) :
    (operation.settle handle true).params = operation.configure handle.params := by
  cases operation <;> rfl

theorem params_settle_failed (operation : Operation) (handle : Handle) :
    (operation.settle handle false).params = handle.params := by
  cases operation <;> rfl

/-- What is asked for within a session is valid, and nothing else is configured. -/
theorem valid_configure {operation : Operation} {mode : Option OpenMode}
    {handle : Handle} {params : LineParams} (hpermitted : operation.Permitted mode)
    (hvalid : ∀ params, handle.params = some params → params.validate = .ok ())
    (hparams : operation.configure handle.params = some params) :
    params.validate = .ok () := by
  cases operation with
  | setLineParams asked =>
      cases hparams
      exact hpermitted.2
  | _ => exact hvalid params hparams

end Transport.Operation

namespace LinkM

/-- An operation leaves alone what is seen in its world. -/
def Spares (view : σ → β) (action : LinkM σ α) : Prop :=
  ∀ world, Leads action world (fun _ after => view after = view world)
    (fun _ after => view after = view world)

variable {view : σ → β} {action : LinkM σ α}

theorem spares_modify {change : σ → σ} (hchange : ∀ world, view (change world) = view world) :
    Spares view (modify change : LinkM σ PUnit) :=
  hchange

/-- What was seen before an operation is seen after it. -/
theorem Spares.leads {world : σ} {seen : β} (haction : Spares view action)
    (hseen : view world = seen) :
    Leads action world (fun _ after => view after = seen) (fun _ after => view after = seen) := by
  rw [← hseen]
  exact haction world

theorem Spares.bind {next : α → LinkM σ τ} (haction : Spares view action)
    (hnext : ∀ value, Spares view (next value)) : Spares view (action >>= next) := by
  intro world
  rw [leads_bind]
  apply (haction world).mono
  · intro value _ hsame
    exact (hnext value).leads hsame
  · intro _ _ hsame
    exact hsame

end LinkM

/-- A link is configured by the operation for it, if that succeeds, and by no other. -/
structure Transport.Configures (transport : Transport σ) (configured : σ → Option LineParams) :
    Prop where
  openLink : ∀ mode, Spares configured (transport.openLink mode)
  closeLink : Spares configured transport.closeLink
  write : ∀ bytes mode, Spares configured (transport.write bytes mode)
  read : ∀ room mode, Spares configured (transport.read room mode)
  setLineParams : ∀ params world, Leads (transport.setLineParams params) world
    (fun _ after => configured after = some params)
    (fun _ after => configured after = configured world)
  setHandshakeLines : ∀ rts dtr, Spares configured (transport.setHandshakeLines rts dtr)
  charFormat : Spares configured transport.charFormat
  queuedInput : Spares configured transport.queuedInput
  flush : Spares configured transport.flush
  drain : Spares configured transport.drain
  eventSource : Spares configured transport.eventSource

namespace Transport.Configures

variable {transport : Transport σ} {configured : σ → Option LineParams}

/-- What a handle asks of a link configures it as the operation says. -/
theorem leads_ask (h : transport.Configures configured) (handle : Handle) (operation : Operation)
    (world : σ) :
    Leads (transport.ask handle operation) world
      (fun _ after => configured after = operation.configure (configured world))
      (fun _ after => configured after = configured world) := by
  cases operation with
  | openLink mode => exact (leads_bind _ _ _ _ _).mpr (h.openLink mode world)
  | closeLink => exact (leads_bind _ _ _ _ _).mpr (h.closeLink world)
  | write bytes mode => exact (leads_bind _ _ _ _ _).mpr (h.write bytes mode world)
  | read room mode => exact (leads_bind _ _ _ _ _).mpr (h.read room mode world)
  | setLineParams params => exact (leads_bind _ _ _ _ _).mpr (h.setLineParams params world)
  | setHandshakeLines rts dtr =>
      exact (leads_bind _ _ _ _ _).mpr (h.setHandshakeLines rts dtr world)
  | charFormat => exact (leads_bind _ _ _ _ _).mpr (h.charFormat world)
  | queuedInput => exact (leads_bind _ _ _ _ _).mpr (h.queuedInput world)
  | flush => exact (leads_bind _ _ _ _ _).mpr (h.flush world)
  | drain => exact (leads_bind _ _ _ _ _).mpr (h.drain world)
  | eventSource => exact (leads_bind _ _ _ _ _).mpr (h.eventSource world)

end Transport.Configures

namespace Faulty

variable {configured : σ → β} {sleep : Nat → σ → σ} {settle : σ → σ} {action : LinkM σ α}

theorem spares_meet (hsleep : ∀ time world, configured (sleep time world) = configured world)
    (point : FaultPoint) :
    Spares (fun faulty => configured faulty.world) (meet sleep point) := by
  intro faulty
  simp only [meet, leads_bind, leads_get]
  split
  · exact rfl
  · next fault rest _ =>
      have hdelayed : configured
          (if point.takesTime then sleep fault.delay faulty.world else faulty.world) =
            configured faulty.world := by
        split
        · exact hsleep _ _
        · rfl
      simp only [leads_bind, leads_set]
      split
      · exact hdelayed
      · exact hdelayed

theorem spares_inner (haction : Spares configured action) :
    Spares (fun faulty => configured faulty.world) (inner action) := by
  intro faulty
  rw [inner, leads_within]
  exact haction faulty.world

theorem spares_guarded (hsleep : ∀ time world, configured (sleep time world) = configured world)
    (point : FaultPoint) (haction : Spares configured action) :
    Spares (fun faulty => configured faulty.world) (guarded sleep point action) :=
  (spares_meet hsleep point).bind fun _ => spares_inner haction

theorem spares_looking (hsleep : ∀ time world, configured (sleep time world) = configured world)
    (hsettle : ∀ world, configured (settle world) = configured world) (point : FaultPoint)
    (haction : Spares configured action) :
    Spares (fun faulty => configured faulty.world) (looking sleep settle point action) :=
  spares_guarded hsleep point ((spares_modify hsettle).bind fun _ => haction)

end Faulty

namespace Transport.Configures

variable {transport : Transport σ} {configured : σ → Option LineParams}

/-- Faults keep a link from being configured, or let it be. -/
theorem faulty {sleep : Nat → σ → σ} {settle : σ → σ} (h : transport.Configures configured)
    (hsleep : ∀ time world, configured (sleep time world) = configured world)
    (hsettle : ∀ world, configured (settle world) = configured world) :
    (transport.faulty sleep settle).Configures fun faulty => configured faulty.world where
  openLink mode := Faulty.spares_guarded hsleep _ (h.openLink mode)
  closeLink := Faulty.spares_guarded hsleep _ h.closeLink
  write bytes mode := by
    apply (Faulty.spares_meet hsleep .write).bind
    intro limit
    split
    · exact Faulty.spares_inner (h.write bytes mode)
    · exact fun _ => rfl
    · exact Faulty.spares_inner (h.write _ mode)
  read room mode := by
    apply (Faulty.spares_meet hsleep .read).bind
    intro limit
    apply (Faulty.spares_inner (spares_modify hsettle)).bind
    intro _
    split
    · exact Faulty.spares_inner (h.read room mode)
    · exact fun _ => rfl
    · exact Faulty.spares_inner (h.read _ mode)
  setLineParams params faulty := by
    refine (leads_bind _ _ _ _ _).mpr ?_
    apply (Faulty.spares_meet hsleep .setLineParams faulty).mono
    · intro _ between hsame
      have hsame : configured between.world = configured faulty.world := hsame
      rw [Faulty.inner, leads_within, ← hsame]
      exact h.setLineParams params between.world
    · intro _ _ hsame
      exact hsame
  setHandshakeLines rts dtr := Faulty.spares_guarded hsleep _ (h.setHandshakeLines rts dtr)
  charFormat := Faulty.spares_guarded hsleep _ h.charFormat
  queuedInput := Faulty.spares_looking hsleep hsettle _ h.queuedInput
  flush := Faulty.spares_looking hsleep hsettle _ h.flush
  drain := Faulty.spares_guarded hsleep _ h.drain
  eventSource := Faulty.spares_guarded hsleep _ h.eventSource

theorem spares_noting {number : Nat} {operation : Operation} {action : LinkM σ α}
    (haction : Spares configured action) :
    Spares (fun recorded => configured recorded.world)
      (Recorded.noting number operation action) :=
  fun recorded => Recorded.leads_noting_iff.mpr (haction recorded.world)

/-- That calls are recorded makes no difference. -/
theorem recorded (h : transport.Configures configured) (number : Nat) :
    (Recorded.transport number transport).Configures fun recorded => configured recorded.world where
  openLink mode := spares_noting (h.openLink mode)
  closeLink := spares_noting h.closeLink
  write bytes mode := spares_noting (h.write bytes mode)
  read room mode := spares_noting (h.read room mode)
  setLineParams params recorded :=
    Recorded.leads_noting_iff.mpr (h.setLineParams params recorded.world)
  setHandshakeLines rts dtr := spares_noting (h.setHandshakeLines rts dtr)
  charFormat := spares_noting h.charFormat
  queuedInput := spares_noting h.queuedInput
  flush := spares_noting h.flush
  drain := spares_noting h.drain
  eventSource := spares_noting h.eventSource

end Transport.Configures

/-- A handle and the link behind it have the same parameters, and valid ones if any. -/
structure InStep (configured : σ → Option LineParams) (station : Station σ) : Prop where
  same : station.handle.params = configured station.world
  valid : ∀ params, station.handle.params = some params → params.validate = .ok ()

theorem Handle.params_of_setLineParams (transport : Transport σ) (station : Station σ)
    (params : LineParams) :
    Leads (Handle.setLineParams transport params) station
      (fun _ after => after.handle.params = some params)
      (fun _ after => after.handle.params = station.handle.params) := by
  apply (Handle.setLineParams_leads transport params station).mono
  · rintro _ _ ⟨_, world, _, rfl⟩
    rfl
  · intro error after hfailed
    cases hfailed with
    | closed _ => rfl
    | invalid _ => rfl
    | transport _ _ => rfl

section InStep

variable {transport : Transport σ} {configured : σ → Option LineParams}
variable {before after : Station σ} {params : LineParams}

/-- A call configures both the handle and the link, or neither. -/
theorem InStep.called (hconfigures : transport.Configures configured)
    (h : InStep configured before) {operation : Operation}
    (hpermitted : operation.Permitted before.handle.mode) :
    InStep configured (before.called transport operation) := by
  have hasked := hconfigures.leads_ask before.handle operation before.world
  rw [Leads] at hasked
  rw [Station.called]
  split at hasked
  · next lines world hask =>
      rw [hask]
      refine ⟨?_, fun params hparams => ?_⟩
      · rw [Transport.Operation.params_settle, h.same, hasked]
      · rw [Transport.Operation.params_settle] at hparams
        exact Transport.Operation.valid_configure hpermitted h.valid hparams
  · next error world hask =>
      rw [hask]
      refine ⟨?_, fun params hparams => ?_⟩
      · rw [Transport.Operation.params_settle_failed, h.same, hasked]
      · rw [Transport.Operation.params_settle_failed] at hparams
        exact h.valid params hparams

theorem InStep.of_moves (hconfigures : transport.Configures configured)
    (h : InStep configured before) (hmoves : Moves transport before after) :
    InStep configured after := by
  induction hmoves with
  | refl => exact h
  | tail _ hmove ih =>
      cases hmove with
      | call _ hpermitted => exact ih.called hconfigures hpermitted
      | adjust _ => exact ⟨ih.same, ih.valid⟩

theorem InStep.setLineParams (hconfigures : transport.Configures configured)
    (h : InStep configured before) (params : LineParams) :
    InStep configured ((Handle.setLineParams transport params).outcome before).2 :=
  h.of_moves hconfigures (Handle.ofMoves_setLineParams transport params before)

/-- Parameters that are refused replace neither those of the handle nor those of the link. -/
theorem InStep.of_refused (hconfigures : transport.Configures configured)
    (h : InStep configured before) {error : LinkError}
    (hfails : (Handle.setLineParams transport params).outcome before = (.error error, after)) :
    after.handle.params = before.handle.params ∧
      configured after.world = configured before.world := by
  have hsame := (h.setLineParams hconfigures params).same
  have hhandle := (Handle.params_of_setLineParams transport before params).of_error
    (congrArg Prod.fst hfails)
  rw [hfails] at hsame hhandle
  exact ⟨hhandle, hsame.symm.trans (hhandle.trans h.same)⟩

theorem InStep.of_accepted (hconfigures : transport.Configures configured)
    (h : InStep configured before)
    (hdone : (Handle.setLineParams transport params).outcome before = (.ok (), after)) :
    after.handle.params = some params ∧ configured after.world = some params := by
  have hsame := (h.setLineParams hconfigures params).same
  have hhandle := (Handle.params_of_setLineParams transport before params).of_ok
    (congrArg Prod.fst hdone)
  rw [hdone] at hsame hhandle
  exact ⟨hhandle, hsame.symm.trans hhandle⟩

end InStep

namespace Use

variable {transport : Transport (Recorded σ)} {configured : Recorded σ → Option LineParams}
variable {attached : Attached (Recorded σ)}

/-- Whatever is done with a handle, it stays in step with its link. -/
theorem inStep_after (hconfigures : transport.Configures configured)
    (h : InStep configured attached.station) (use : Use σ)
    (hmeanwhile : ∀ change, use = .meanwhile change → ∀ recorded : Recorded σ,
      configured { recorded with world := change recorded.world } = configured recorded) :
    InStep configured (use.after transport attached).station := by
  by_cases hmoves : use.MakesMoves
  · exact h.of_moves hconfigures (moves_after transport attached hmoves)
  · cases use with
    | openLink mode =>
        rw [after, station_onHandle]
        rcases Handle.after_openLink transport mode attached.station with
          hsame | ⟨hpermitted, hcalled⟩
        · rwa [hsame]
        · rw [hcalled]
          exact h.called hconfigures hpermitted
    | closeLink =>
        rw [after, station_onHandle]
        rcases Handle.after_closeLink transport attached.station with
          hsame | ⟨hpermitted, hcalled⟩
        · rwa [hsame]
        · rw [hcalled]
          exact h.called hconfigures hpermitted
    | logPackets on =>
        rw [after, station_onHandle]
        exact ⟨h.same, h.valid⟩
    | meanwhile change =>
        rw [after, station_onHandle]
        exact ⟨h.same.trans (hmeanwhile change rfl attached.station.world).symm, h.valid⟩
    | _ => exact absurd trivial hmoves

theorem inStep_run (hconfigures : transport.Configures configured)
    (h : InStep configured attached.station) {uses : List (Use σ)}
    (hmeanwhile : ∀ change, .meanwhile change ∈ uses → ∀ recorded : Recorded σ,
      configured { recorded with world := change recorded.world } = configured recorded) :
    InStep configured (run transport attached uses).station := by
  induction uses generalizing attached with
  | nil => exact h
  | cons use rest ih =>
      have hfirst := inStep_after hconfigures h use fun change huse =>
        hmeanwhile change (huse ▸ List.mem_cons_self)
      exact ih hfirst fun change hchange => hmeanwhile change (List.mem_cons_of_mem use hchange)

end Use

def Faulty.failure? (faulty : Faulty σ) (point : FaultPoint) : Option LinkError :=
  (next? point faulty.faults).bind fun found => found.1.error

theorem Faulty.meet_fails (sleep : Nat → σ → σ) (point : FaultPoint) (faulty : Faulty σ) :
    Leads (meet sleep point) faulty (fun _ _ => faulty.failure? point = none)
      (fun error _ => faulty.failure? point = some error) := by
  simp only [meet, leads_bind, leads_get, failure?]
  split
  · next hnext => simp [hnext]
  · next fault rest hnext =>
      simp only [leads_bind, leads_set, hnext]
      split
      · next error herror => exact herror
      · next herror => exact herror

namespace Handle

variable (transport : Transport σ) (station : Station σ)

def estimateFormat : CharFormat :=
  match ((charFormat transport).outcome station).1 with
  | .ok format => format
  | .error _ => .fallback

theorem result_of_transferTimeout? (bytes : Nat) :
    ((transferTimeout? transport bytes).outcome station).1 =
      .ok (((estimateFormat transport station).transferTime? bytes).map (· + transferMargin)) := by
  rw [transferTimeout?, outcome_bind, estimateFormat]
  simp only [attempt, outcome]
  cases charFormat transport station <;> rfl

/-- A closed handle says nothing of its characters. -/
theorem result_of_charFormat_closed (hclosed : station.handle.mode = none) :
    ((charFormat transport).outcome station).1 = .error (.notOpen "frame_format") := by
  refine (leads_iff_outcome _ _ fun result _ => result = .error (.notOpen "frame_format")).mp ?_
  simp only [charFormat, leads_bind, leads_requireOpen]
  constructor
  · intro mode hmode
    rw [hclosed] at hmode
    cases hmode
  · intro _
    trivial

end Handle

namespace Scripted

theorem params_accept (state : State) (bytes : List UInt8) :
    (state.accept bytes).params = state.params := by
  simp only [State.accept]
  split
  · rfl
  · split <;> rfl

theorem spares_read (room : Nat) (mode : IoMode) : Spares State.params (read room mode) := by
  intro state
  have hread : ∃ bytes after, read room mode state = .ok bytes after ∧
      after.params = state.params := by
    simp only [read]
    split
    · exact ⟨_, _, rfl, rfl⟩
    · exact ⟨_, _, rfl, rfl⟩
  obtain ⟨bytes, after, hread, hsame⟩ := hread
  rw [Leads, hread]
  exact hsame

theorem configures : transport.Configures State.params where
  openLink mode state := by
    cases hrefuses : state.refusesOpen <;> simp [Leads, transport, hrefuses]
  closeLink _ := rfl
  write bytes _ state := params_accept state bytes
  read := spares_read
  setLineParams _ _ := rfl
  setHandshakeLines _ _ _ := rfl
  charFormat state := by
    simp only [transport, leads_bind, leads_get]
    split
    · rfl
    · rfl
  queuedInput _ := rfl
  flush _ := rfl
  drain _ := rfl
  eventSource _ := rfl

/-- The parameters of the link behind faults and the record of its calls. -/
theorem link_configures (number : Nat) :
    (Recorded.transport number faultyLink).Configures fun recorded =>
      recorded.world.world.params := by
  have hfaulty : faultyLink.Configures fun faulty => faulty.world.params :=
    configures.faulty (fun _ _ => rfl) fun _ => rfl
  exact hfaulty.recorded number

/-- What a link says of its characters: the failure that it meets, or else the format
of its parameters, if it has any. -/
def formatOf (failure? : Option LinkError) (params? : Option LineParams) :
    Except LinkError CharFormat :=
  match failure?, params? with
  | some error, _ => .error error
  | none, some params => .ok params.charFormat
  | none, none => .error (.unsupported "frame_format" backendName)

theorem formatOf_eq_ok_iff {failure? : Option LinkError} {params? : Option LineParams}
    {format : CharFormat} :
    formatOf failure? params? = .ok format ↔
      failure? = none ∧ ∃ params, params? = some params ∧ format = params.charFormat := by
  cases failure? with
  | some error => simp [formatOf]
  | none =>
      cases params? with
      | some params => simp [formatOf, eq_comm]
      | none => simp [formatOf]

theorem faultyCharFormat_leads (faulty : Faulty State) :
    Leads faultyLink.charFormat faulty
      (fun format _ =>
        formatOf (faulty.failure? .charFormat) faulty.world.params = .ok format)
      (fun error _ =>
        formatOf (faulty.failure? .charFormat) faulty.world.params = .error error) := by
  have hspares : Spares (fun faulty : Faulty State => faulty.world.params)
      (Faulty.meet (fun time (state : State) => state.sleep time) .charFormat) :=
    Faulty.spares_meet (fun _ _ => rfl) .charFormat
  simp only [faultyLink, Transport.faulty, Faulty.guarded, leads_bind]
  apply ((Faulty.meet_fails _ .charFormat faulty).and (hspares faulty)).mono
  · intro _ between hmet
    obtain ⟨hnone, hsame⟩ := hmet
    have hsame : between.world.params = faulty.world.params := hsame
    rw [hnone, ← hsame, Faulty.inner, leads_within]
    simp only [transport, leads_bind, leads_get]
    split
    · next params hparams => simp [formatOf, hparams]
    · next hparams => simp [formatOf, hparams]
  · intro error _ hmet
    rw [hmet.1]
    rfl

variable {number : Nat} {station : Station (Recorded (Faulty State))}

/-- An open handle says of its characters what the link does. -/
theorem result_of_charFormat (hopen : station.handle.mode ≠ none) :
    ((Handle.charFormat (Recorded.transport number faultyLink)).outcome station).1 =
      formatOf (station.world.world.failure? .charFormat) station.world.world.world.params := by
  refine (leads_iff_outcome _ _ fun result _ => result =
    formatOf (station.world.world.failure? .charFormat) station.world.world.world.params).mp ?_
  simp only [Handle.charFormat, leads_bind, Handle.leads_requireOpen, Station.call, leads_within]
  constructor
  · intro _ _
    refine Recorded.leads_noting_iff.mpr ?_
    apply (faultyCharFormat_leads station.world.world).mono
    · intro _ _ hformat
      exact hformat.symm
    · intro _ _ hformat
      exact hformat.symm
  · intro hclosed
    exact absurd hclosed hopen

theorem estimateFormat_of_params {params : LineParams}
    (hsame : station.handle.params = station.world.world.world.params)
    (hopen : station.handle.mode ≠ none) (hnone : station.world.world.failure? .charFormat = none)
    (hparams : station.handle.params = some params) :
    Handle.estimateFormat (Recorded.transport number faultyLink) station = params.charFormat := by
  rw [Handle.estimateFormat, result_of_charFormat hopen, hnone, ← hsame, hparams]
  rfl

/-- Whatever keeps a handle from telling its format, the estimate is made with the same one. -/
theorem estimateFormat_of_unknown
    (hsame : station.handle.params = station.world.world.world.params)
    (hunknown : station.handle.mode = none ∨ station.world.world.failure? .charFormat ≠ none ∨
      station.handle.params = none) :
    Handle.estimateFormat (Recorded.transport number faultyLink) station =
      { baud := 9600, bits := 10 } := by
  rw [Handle.estimateFormat]
  by_cases hclosed : station.handle.mode = none
  · rw [Handle.result_of_charFormat_closed _ _ hclosed]
    rfl
  · rw [result_of_charFormat hclosed, ← hsame]
    cases hfailure : station.world.world.failure? .charFormat with
    | some error => rfl
    | none =>
        have hunset : station.handle.params = none :=
          (hunknown.resolve_left hclosed).resolve_left fun hfails => hfails hfailure
        rw [hunset]
        rfl

/-- After every run, a handle and its scripted link have the same line parameters, which
are valid, whatever was refused by the handle, by their validation or by the link.  A
refusal changes neither of them.  What an open handle says of its characters, and every
estimate of the time they take, comes from these parameters. -/
theorem line_params_in_step {key : Nat} {connection : Connection} {config : LinkConfig}
    {world : Faulty State} (hfresh : world.world.params = none)
    {uses : List (Use (Faulty State))}
    (hmeanwhile : ∀ change, .meanwhile change ∈ uses → ∀ faulty : Faulty State,
      (change faulty).world.params = faulty.world.params) :
    let link := Recorded.transport number faultyLink
    let station := (Use.run link
      { device := { config }, station := { handle := { key, connection }, world := { world } } }
      uses).station
    let failure := station.world.world.failure? .charFormat
    station.handle.params = station.world.world.world.params ∧
      (∀ params, station.handle.params = some params → params.validate = .ok ()) ∧
      (∀ params error after, (Handle.setLineParams link params).outcome station =
          (.error error, after) →
        after.handle.params = station.handle.params ∧
          after.world.world.world.params = station.world.world.world.params) ∧
      (∀ params after, (Handle.setLineParams link params).outcome station = (.ok (), after) →
        after.handle.params = some params ∧ after.world.world.world.params = some params) ∧
      (station.handle.mode ≠ none → ((Handle.charFormat link).outcome station).1 =
        formatOf failure station.handle.params) ∧
      (∀ format, ((Handle.charFormat link).outcome station).1 = .ok format →
        1 ≤ format.baud.toNat ∧ 7 ≤ format.bits.toNat ∧ format.bits.toNat ≤ 12) ∧
      (∀ params bytes, station.handle.mode ≠ none → failure = none →
        station.handle.params = some params →
        bytes * params.charFormat.bits.toNat * 1000 < UInt64.size →
        ((Handle.transferTimeout? link bytes).outcome station).1 =
          .ok (some ((bytes * params.charFormat.bits.toNat * 1000) ⌈/⌉
            params.charFormat.baud.toNat + 10))) ∧
      ∀ bytes, station.handle.mode = none ∨ failure ≠ none ∨ station.handle.params = none →
        bytes * 10 * 1000 < UInt64.size →
        ((Handle.transferTimeout? link bytes).outcome station).1 =
          .ok (some ((bytes * 10 * 1000) ⌈/⌉ 9600 + 10)) := by
  intro link station failure
  have hstep : InStep (fun recorded : Recorded (Faulty State) => recorded.world.world.params)
      station :=
    Use.inStep_run (link_configures number) ⟨hfresh.symm, fun params hparams => by cases hparams⟩
      fun change hchange recorded => hmeanwhile change hchange recorded.world
  refine ⟨hstep.same, hstep.valid, ?_, ?_, ?_, ?_, ?_, ?_⟩
  · intro params error after hfails
    exact hstep.of_refused (link_configures number) hfails
  · intro params after hdone
    exact hstep.of_accepted (link_configures number) hdone
  · intro hopen
    rw [result_of_charFormat hopen, hstep.same]
  · intro format hformat
    by_cases hopen : station.handle.mode = none
    · rw [Handle.result_of_charFormat_closed link station hopen] at hformat
      cases hformat
    · rw [result_of_charFormat hopen, ← hstep.same] at hformat
      obtain ⟨_, params, hparams, rfl⟩ := formatOf_eq_ok_iff.mp hformat
      exact LineParams.charFormat_bounds (hstep.valid params hparams)
  · intro params bytes hopen hnone hparams hfits
    have hbaud := (LineParams.validate_eq_ok_iff.mp (hstep.valid params hparams)).1
    rw [Handle.result_of_transferTimeout?, estimateFormat_of_params hstep.same hopen hnone hparams,
      CharFormat.transferTime?_eq hbaud hfits]
    rfl
  · intro bytes hunknown hfits
    have hbaud : ({ baud := 9600, bits := 10 } : CharFormat).baud ≠ 0 := by decide
    rw [Handle.result_of_transferTimeout?, estimateFormat_of_unknown hstep.same hunknown,
      CharFormat.transferTime?_eq hbaud hfits]
    rfl

/-- Parameters refused by a closed handle, by their validation and by the link, taken
at last, and kept by the handle and its link while both are closed and opened again. -/
theorem line_params_in_step_refused :
    let even : LineParams := { baud := 19200, parity := .even }
    let uses : List (Use (Faulty State)) :=
      [.setLineParams even, .openLink .readWrite, .setLineParams { dataBits := 9 },
        .setLineParams { baud := 300 }, .setLineParams even, .closeLink,
        .meanwhile fun faulty => { faulty with world := faulty.world.sleep 5 },
        .openLink .readWrite]
    let world : Faulty State :=
      { world := {}, faults := [(.setLineParams, { error := some (.transport (.other "busy")) })] }
    let link := Recorded.transport 0 faultyLink
    let station := (Use.run link
      { device := { config := {} }
        station :=
          { handle := { key := 0, connection := .serial "/dev/ttyS0" }, world := { world } } }
      uses).station
    let refused := (Handle.setLineParams link { dataBits := 9 }).outcome station
    let refusal : LinkError := .argument (.dataBitsRange 9)
    world.world.params = none ∧
      (∀ change, .meanwhile change ∈ uses → ∀ faulty : Faulty State,
        (change faulty).world.params = faulty.world.params) ∧
      station.handle.params = some even ∧
      station.world.world.world.params = some even ∧
      even.validate = .ok () ∧
      refused.1 = .error refusal ∧
      refused.2.handle.params = some even ∧
      ((Handle.charFormat link).outcome station).1 = .ok { baud := 19200, bits := 11 } ∧
      ((Handle.transferTimeout? link 96).outcome station).1 = .ok (some (55 + 10)) := by
  intro even uses world link station refused refusal
  have hworld : world.world.params = none := rfl
  have hmeanwhile : ∀ change, .meanwhile change ∈ uses → ∀ faulty : Faulty State,
      (change faulty).world.params = faulty.world.params := by
    intro change hchange faulty
    simp only [uses, List.mem_cons, reduceCtorEq, Use.meanwhile.injEq, false_or,
      List.not_mem_nil, or_false] at hchange
    rw [hchange]
    rfl
  have hparams : station.handle.params = some even := by decide +kernel
  have hrun := @line_params_in_step 0 0 (.serial "/dev/ttyS0") {} world hworld uses hmeanwhile
  extract_lets failure at hrun
  obtain ⟨hsame, hvalid, hfails, -, hformat, -, htimeout, -⟩ := hrun
  have hworldParams : station.world.world.world.params = some even := hsame.symm.trans hparams
  have hopen : station.handle.mode ≠ none := by decide +kernel
  have hnone : station.world.world.failure? .charFormat = none := by decide +kernel
  have hrefused : refused.1 = .error refusal := by decide +kernel
  have hpair : refused = (.error refusal, refused.2) := by rw [← hrefused]
  have hkept := hfails { dataBits := 9 } refusal refused.2 hpair
  have hceil : 96 * even.charFormat.bits.toNat * 1000 ⌈/⌉ even.charFormat.baud.toNat = 55 := by
    rw [Nat.ceilDiv_eq_add_pred_div]
    decide
  refine ⟨hworld, hmeanwhile, hparams, hworldParams, hvalid even hparams, hrefused,
    hkept.1.trans hparams, ?_, ?_⟩
  · rw [hformat hopen, hparams, show failure = none from hnone]
    rfl
  · rw [htimeout even 96 hopen hnone hparams (by decide), hceil]

end Scripted

end InstrumentLink
