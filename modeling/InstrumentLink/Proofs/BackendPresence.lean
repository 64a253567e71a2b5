import InstrumentLink.Bench.Wire
import InstrumentLink.Proofs.LinkPresence

/-!
# Sockets and ports that are there while their handles are open

A socket has its stream, and a serial port its device, from an open that succeeds to the
next close.  Whatever a network or a system answers in between, a handle over them never
passes on that the stream or the device is missing.
-/

namespace InstrumentLink

open LinkM LinkError

variable {ε σ α β : Type}

namespace LinkM

/-- No failure of an operation is that a link is not open. -/
def NeedsNoLink (action : LinkM σ α) : Prop :=
  ∀ world, Leads action world (fun _ _ => True) (fun error _ => error.Elsewhere)

theorem needsNoLink_pure (value : α) : NeedsNoLink (pure value : LinkM σ α) := fun _ => trivial

theorem NeedsNoLink.bind {action : LinkM σ α} {next : α → LinkM σ β}
    (haction : NeedsNoLink action) (hnext : ∀ value, NeedsNoLink (next value)) :
    NeedsNoLink (action >>= next) := by
  intro world
  rw [leads_bind]
  exact (haction world).mono (fun value after _ => hnext value after) fun _ _ herror => herror

theorem needsNoLink_rewording {reword : ε → LinkError} (hreword : ∀ error, (reword error).Elsewhere)
    (action : EStateM ε σ α) : NeedsNoLink (LinkM.rewording reword action) := by
  intro world
  rw [Leads, rewording]
  cases action world with
  | ok value after => exact trivial
  | error error after => exact hreword error

end LinkM

namespace Socket

theorem elsewhere_reword (address : String) (error : Stream.Error) :
    (reword address error).Elsewhere := by
  rw [reword]
  split
  · exact fun _ herror => by cases herror
  · exact fun _ herror => by cases herror

theorem serves_connectedTo (operation : String) {action : LinkM σ α}
    (haction : NeedsNoLink action) : Serves connected (connectedTo operation action) := by
  intro socket hconnected
  simp only [connectedTo, leads_bind, leads_get, hconnected, if_true, onNetwork, leads_within]
  exact (haction socket.world).mono (fun _ _ _ => trivial) fun _ _ herror => ⟨trivial, herror⟩

variable (network : Network σ) (host port : String)

theorem comesAndGoes : (transport network host port).ComesAndGoes connected where
  openLink mode socket habsent := by
    simp only [transport, leads_bind, onNetwork, leads_within, leads_modify, leads_pure]
    have hconnect : NeedsNoLink (LinkM.rewording
        (fun reason => LinkError.transport (.connectFailed (address host port) reason))
        (network.connect (address host port))) :=
      needsNoLink_rewording (fun _ _ herror => by cases herror) _
    exact (hconnect socket.world).mono (fun _ _ _ => trivial) fun _ _ herror => ⟨habsent, herror⟩
  closeLink socket hconnected := by
    simp only [transport, leads_bind, leads_get, hconnected, if_true, leads_modify, release]
  write bytes mode :=
    serves_connectedTo _ (needsNoLink_rewording (elsewhere_reword _) _)
  read room mode :=
    serves_connectedTo _ (needsNoLink_rewording (elsewhere_reword _) _)
  setLineParams params socket hconnected := hconnected
  setHandshakeLines rts dtr socket hconnected := hconnected
  charFormat socket hconnected := ⟨hconnected, fun _ herror => by cases herror⟩
  queuedInput := serves_connectedTo _ (needsNoLink_rewording (fun _ _ herror => by cases herror) _)
  flush := serves_connectedTo _ (needsNoLink_rewording (fun _ _ herror => by cases herror) _)
  drain := serves_connectedTo _ (needsNoLink_rewording (fun _ _ herror => by cases herror) _)
  eventSource := serves_connectedTo _ fun _ => trivial

end Socket

namespace SerialPort

theorem needsNoLink_acting (action path : String) (operation : EStateM String σ α) :
    NeedsNoLink (acting action path operation) :=
  needsNoLink_rewording (fun _ _ herror => by cases herror) _

theorem needsNoLink_transferring (operation : EStateM Stream.Error σ α) :
    NeedsNoLink (transferring operation) :=
  needsNoLink_rewording (fun _ _ herror => by cases herror) _

theorem serves_onPort {action : LinkM σ α} (haction : NeedsNoLink action) :
    Serves attached (onPort action) := by
  intro port hattached
  simp only [onPort, leads_bind, leads_get, hattached, if_true, onSystem, leads_within]
  exact (haction port.world).mono (fun _ _ _ => trivial) fun _ _ herror => ⟨trivial, herror⟩

variable (system : PortSystem σ) (path : String)

theorem needsNoLink_driveLines (rts dtr : Option Bool) :
    NeedsNoLink (driveLines system path rts dtr) := by
  cases rts with
  | none =>
      cases dtr with
      | none => exact needsNoLink_pure ()
      | some level => exact needsNoLink_acting _ path _
  | some high =>
      apply (needsNoLink_acting _ path _).bind
      intro _
      cases dtr with
      | none => exact needsNoLink_pure ()
      | some level => exact needsNoLink_acting _ path _

theorem needsNoLink_applyParams (params : LineParams) :
    NeedsNoLink (applyParams system path params) := by
  apply (needsNoLink_acting _ path _).bind
  intro _
  apply (needsNoLink_acting _ path _).bind
  intro _
  apply (needsNoLink_acting _ path _).bind
  intro _
  apply (needsNoLink_acting _ path _).bind
  intro _
  apply (needsNoLink_acting _ path _).bind
  intro _
  exact needsNoLink_driveLines system path params.rts params.dtr

theorem comesAndGoes : (transport system path).ComesAndGoes attached where
  openLink mode port habsent := by
    simp only [transport, leads_bind, onSystem, leads_within, leads_modify, leads_pure]
    exact (needsNoLink_acting "open" path (system.openPort path) port.world).mono
      (fun _ _ _ => trivial) fun _ _ herror => ⟨habsent, herror⟩
  closeLink port hattached := by
    simp only [transport, leads_bind, leads_get, hattached, if_true, leads_modify, release]
  write bytes mode := serves_onPort (needsNoLink_transferring _)
  read room mode := serves_onPort (needsNoLink_transferring _)
  setLineParams params port hattached := by
    dsimp only [transport]
    split
    · exact ⟨hattached, (OfArgument.elsewhere ⟨_, rfl⟩)⟩
    · split
      · exact ⟨hattached, (OfArgument.elsewhere ⟨_, rfl⟩)⟩
      · exact serves_onPort (needsNoLink_applyParams system path params) port hattached
  setHandshakeLines rts dtr := serves_onPort (needsNoLink_driveLines system path rts dtr)
  charFormat := serves_onPort (needsNoLink_acting _ _ _)
  queuedInput := serves_onPort (needsNoLink_acting _ _ _)
  flush := serves_onPort (needsNoLink_acting _ _ _)
  drain := serves_onPort (needsNoLink_transferring _)
  eventSource := serves_onPort fun _ => trivial

end SerialPort

/-! ### A link whose calls are recorded -/

def Recorded.behind (present : σ → Bool) (recorded : Recorded σ) : Bool := present recorded.world

/-- A noted operation serves its link as it does unnoted. -/
theorem LinkM.Serves.noting {present : σ → Bool} {action : LinkM σ α}
    (hserves : Serves present action) (number : Nat) (operation : Transport.Operation) :
    Serves (Recorded.behind present) (Recorded.noting number operation action) :=
  fun recorded hpresent => Recorded.leads_noting_iff.mpr (hserves recorded.world hpresent)

theorem Transport.ComesAndGoes.recorded {transport : Transport σ} {present : σ → Bool}
    (h : transport.ComesAndGoes present) (number : Nat) :
    (Recorded.transport number transport).ComesAndGoes (Recorded.behind present) where
  openLink mode recorded habsent :=
    Recorded.leads_noting_iff.mpr (h.openLink mode recorded.world habsent)
  closeLink recorded hpresent :=
    Recorded.leads_noting_iff.mpr (h.closeLink recorded.world hpresent)
  write bytes mode := (h.write bytes mode).noting number _
  read room mode := (h.read room mode).noting number _
  setLineParams params := (h.setLineParams params).noting number _
  setHandshakeLines rts dtr := (h.setHandshakeLines rts dtr).noting number _
  charFormat := h.charFormat.noting number _
  queuedInput := h.queuedInput.noting number _
  flush := h.flush.noting number _
  drain := h.drain.noting number _
  eventSource := h.eventSource.noting number _

/-- While its handle is closed, a link is not asked for anything. -/
theorem world_of_moves {transport : Transport σ} {before after : Station σ}
    (hmoves : Moves transport before after) (hclosed : before.handle.mode = none) :
    after.handle.mode = none ∧ after.world = before.world := by
  induction hmoves with
  | refl => exact ⟨hclosed, rfl⟩
  | tail _ hmove ih =>
      obtain ⟨hstill, hworld⟩ := ih
      cases hmove with
      | adjust events => exact ⟨hstill, hworld⟩
      | @call operation hinside hpermitted =>
          rw [hstill] at hpermitted
          cases operation with
          | openLink mode => exact hinside.elim
          | write bytes mode => exact nomatch hpermitted.1
          | read room mode => exact absurd rfl hpermitted.1
          | setLineParams params => exact absurd rfl hpermitted.1
          | _ => exact absurd rfl hpermitted

/-! ### What a use comes to -/

namespace LinkM

def verdict (action : LinkM σ α) (world : σ) : Except LinkError Unit :=
  (action.outcome world).1.map fun _ => ()

theorem blames_verdict {kind : LinkError → Prop} {action : LinkM σ α} {world : σ} :
    Blames kind (action.verdict world) ↔ Blames kind (action.outcome world).1 := by
  rw [verdict]
  cases (action.outcome world).1 with
  | ok value => exact iff_of_true (blames_ok ()) (blames_ok value)
  | error error => exact (blames_error error).trans (blames_error error).symm

theorem Justifies.outcome {present : τ → Bool} {mode : Option OpenMode} {view : σ → Station τ}
    {action : LinkM σ α} {good : α → Prop} (h : Justifies present mode view action good)
    (world : σ) (hheld : (view world).Held present mode) :
    (view (action.outcome world).2).Held present mode ∧
      Blames (Justified mode) (action.outcome world).1 := by
  rcases (h world hheld).exists_outcome with
    ⟨value, after, houtcome, hleft, _⟩ | ⟨error, after, houtcome, hleft, herror⟩
  · rw [houtcome]
    exact ⟨hleft, blames_ok value⟩
  · rw [houtcome]
    exact ⟨hleft, (blames_error error).mpr herror⟩

end LinkM

theorem Primitive.elsewhere_sort (primitive : Primitive) (reply : Reply) :
    Blames Elsewhere (primitive.sort reply) := by
  have hkind : (LinkError.protocol .unexpectedKind).Elsewhere := fun _ herror => by cases herror
  unfold sort
  split
  · exact blames_ok ()
  · exact blames_ok ()
  · exact blames_ok ()
  · exact blames_ok ()
  · exact (blames_error _).mpr hkind

namespace Use

/-- Whether a use succeeds, whatever it returns.  A part of a reply that did not come whole
fails for what stopped it. -/
def result (transport : Transport (Recorded σ)) (attached : Attached (Recorded σ)) :
    Use σ → Except LinkError Unit
  | openLink mode => (Handle.openLink transport mode).verdict attached.station
  | closeLink => (Handle.closeLink transport).verdict attached.station
  | write bytes mode => (Handle.write transport bytes mode).verdict attached.station
  | writeAll bytes limit => (Handle.writeAll transport bytes limit).verdict attached.station
  | read room mode => (Handle.read transport room mode).verdict attached.station
  | setLineParams params => (Handle.setLineParams transport params).verdict attached.station
  | setHandshakeLines rts dtr =>
      (Handle.setHandshakeLines transport rts dtr).verdict attached.station
  | charFormat => (Handle.charFormat transport).verdict attached.station
  | transferTimeout bytes => (Handle.transferTimeout? transport bytes).verdict attached.station
  | queuedInput => (Handle.queuedInput transport).verdict attached.station
  | flush => (Handle.flush transport).verdict attached.station
  | drain => (Handle.drain transport).verdict attached.station
  | register reactor wish =>
      (Handle.registerForEvents transport wish).verdict (attached.station, reactor)
  | unregister reactor => Handle.unregisterFromEvents.verdict (attached.station, reactor)
  | sendPdu config pdu => (FramedLink.sendPdu transport config pdu).verdict attached.station
  | receivePart limit part total =>
      match ((FramedLink.receivePart transport limit part total).outcome attached.station).1 with
      | .ok received => received.failure.elim (.ok ()) .error
      | .error error => .error error
  | readAddress config => (FramedLink.readAddress transport config).verdict attached.station
  | readChecksum config pdu =>
      (FramedLink.readChecksum transport config pdu).verdict attached.station
  | send request => (Device.send transport request).verdict attached
  | receive request => (Device.receive transport request).verdict attached
  | cancel => (Device.cancel transport).verdict attached
  | transact request => (Device.transact transport request).verdict attached
  | perform primitive => primitive.result transport attached
  | logPackets _ | fire _ _ | attach _ | meanwhile _ => .ok ()

/-- What happens in the meantime neither brings a link nor takes it away. -/
def Steady (present : σ → Bool) : Use σ → Prop
  | meanwhile change => ∀ world, present (change world) = present world
  | _ => True

/-- How a use stands to the link behind its handle. -/
structure Vouched (present : σ → Bool) (transport : Transport (Recorded σ))
    (attached : Attached (Recorded σ)) (use : Use σ) : Prop where
  present_eq : present attached.station.world.world = attached.station.handle.isOpen
  closes : use = .closeLink → attached.station.handle.isOpen = true →
    use.result transport attached = .ok ()
  /-- That a link is not open is said by a closed handle, and the link is not asked. -/
  refuses : ∀ operation, use.result transport attached = .error (.notOpen operation) →
    attached.station.handle.isOpen = false ∧ operation ∈ Handle.refusals ∧
      operation ∉ ["socket access", "serial port access", "event_source"] ∧
      (use.after transport attached).station.world = attached.station.world

variable {present : σ → Bool} {transport : Transport (Recorded σ)} {mode : Option OpenMode}
variable {attached : Attached (Recorded σ)}

theorem held_onHandle {action : LinkM (Station (Recorded σ)) α} {good : α → Prop}
    (hheld : attached.station.Held (Recorded.behind present) mode)
    (haction : Justifies (Recorded.behind present) mode id action good) :
    (onHandle attached action).station.Held (Recorded.behind present) mode ∧
      Blames (Justified mode) (action.verdict attached.station) := by
  rw [station_onHandle, blames_verdict]
  exact haction.outcome _ hheld

theorem held_attached {action : LinkM (Attached (Recorded σ)) α} {good : α → Prop}
    (hheld : attached.station.Held (Recorded.behind present) mode)
    (haction : Justifies (Recorded.behind present) mode Attached.station action good) :
    (action.outcome attached).2.station.Held (Recorded.behind present) mode ∧
      Blames (Justified mode) (action.verdict attached) := by
  rw [blames_verdict]
  exact haction.outcome _ hheld

variable (htransport : transport.ComesAndGoes (Recorded.behind present))
include htransport

theorem held_receivePart (limit : Nat) (part : String) (total : Nat)
    (hheld : attached.station.Held (Recorded.behind present) mode) :
    ((receivePart limit part total : Use σ).after transport attached).station.Held
        (Recorded.behind present) mode ∧
      Blames (Justified mode)
        ((receivePart limit part total : Use σ).result transport attached) := by
  have hpart : Justifies (Recorded.behind present) mode id _ _ :=
    FramedLink.justifies_receivePart htransport limit part total
  refine ⟨(held_onHandle hheld hpart).1, ?_⟩
  rcases (hpart attached.station hheld).exists_outcome with
    ⟨received, after, houtcome, _, hreceived⟩ | ⟨error, after, houtcome, _, herror⟩
  · rw [result, houtcome]
    change Blames (Justified mode) (received.failure.elim (.ok ()) .error)
    cases hfailure : received.failure with
    | none => exact blames_ok ()
    | some error => exact (blames_error error).mpr (hreceived error hfailure)
  · rw [result, houtcome]
    exact (blames_error error).mpr herror

theorem held_perform (primitive : Primitive)
    (hheld : attached.station.Held (Recorded.behind present) mode) :
    (primitive.after transport attached).station.Held (Recorded.behind present) mode ∧
      Blames (Justified mode) (primitive.result transport attached) := by
  constructor
  · rcases Device.after_primitive transport primitive attached with hsame | ⟨request, _, hafter⟩
    · rw [hsame]
      exact hheld
    · rw [hafter]
      exact ((Device.justifies_transact htransport request).outcome _ hheld).1
  · rw [Device.result_of_primitive, primitive.request_eq]
    apply (primitive.asks.elsewhere_checked.mono fun _ => Elsewhere.justified).bind
    intro request
    apply ((Device.justifies_transact htransport request).outcome _ hheld).2.bind
    intro reply
    exact (primitive.elsewhere_sort reply).mono fun _ => Elsewhere.justified

/-- A use that neither begins nor ends a session leaves its station held as it was. -/
theorem held_inside {use : Use σ} (hopens : ∀ mode, use ≠ .openLink mode)
    (hcloses : use ≠ .closeLink) (hheld : attached.station.Held (Recorded.behind present) mode) :
    (use.Steady present →
        (use.after transport attached).station.Held (Recorded.behind present) mode) ∧
      Blames (Justified mode) (use.result transport attached) := by
  have hsteady : ∀ {left kind : Prop}, left ∧ kind → (use.Steady present → left) ∧ kind :=
    fun h => ⟨fun _ => h.1, h.2⟩
  cases use with
  | openLink mode => exact absurd rfl (hopens mode)
  | closeLink => exact absurd rfl hcloses
  | write bytes limit =>
      exact hsteady (held_onHandle hheld (Handle.justifies_write htransport bytes limit))
  | writeAll bytes limit =>
      exact hsteady (held_onHandle hheld (Handle.justifies_writeAll htransport bytes limit))
  | read room limit =>
      exact hsteady (held_onHandle hheld (Handle.justifies_read htransport room limit))
  | setLineParams params =>
      exact hsteady (held_onHandle hheld (Handle.justifies_setLineParams htransport params))
  | setHandshakeLines rts dtr =>
      exact hsteady (held_onHandle hheld (Handle.justifies_setHandshakeLines htransport rts dtr))
  | charFormat => exact hsteady (held_onHandle hheld (Handle.justifies_charFormat htransport))
  | transferTimeout bytes =>
      exact hsteady (held_onHandle hheld (Handle.justifies_transferTimeout? htransport bytes))
  | queuedInput => exact hsteady (held_onHandle hheld (Handle.justifies_queuedInput htransport))
  | flush => exact hsteady (held_onHandle hheld (Handle.justifies_flush htransport))
  | drain => exact hsteady (held_onHandle hheld (Handle.justifies_drain htransport))
  | logPackets on =>
      refine ⟨fun _ => (held_onHandle hheld (Handle.justifies_setHandle ?_)).1, blames_ok ()⟩
      exact fun _ => rfl
  | register reactor wish =>
      have houtcome := (Handle.justifies_registerForEvents htransport wish).outcome
        (attached.station, reactor) hheld
      exact ⟨fun _ => houtcome.1, blames_verdict.mpr houtcome.2⟩
  | unregister reactor =>
      have houtcome := Handle.justifies_unregisterFromEvents.outcome
        (attached.station, reactor) hheld
      exact ⟨fun _ => houtcome.1, blames_verdict.mpr houtcome.2⟩
  | fire reactor observed =>
      refine ⟨fun _ => (held_onHandle hheld (Handle.justifies_setHandle ?_)).1, blames_ok ()⟩
      exact fun _ => rfl
  | sendPdu config pdu =>
      exact hsteady (held_onHandle hheld (FramedLink.justifies_sendPdu htransport config pdu))
  | receivePart limit part total =>
      exact hsteady (held_receivePart htransport limit part total hheld)
  | readAddress config =>
      exact hsteady (held_onHandle hheld (FramedLink.justifies_readAddress htransport config))
  | readChecksum config pdu =>
      exact hsteady (held_onHandle hheld (FramedLink.justifies_readChecksum htransport config pdu))
  | attach config => exact ⟨fun _ => hheld, blames_ok ()⟩
  | send request => exact hsteady (held_attached hheld (Device.justifies_send htransport request))
  | receive request =>
      exact hsteady (held_attached hheld (Device.justifies_receive htransport request))
  | cancel => exact hsteady (held_attached hheld (Device.justifies_cancel htransport))
  | transact request =>
      exact hsteady (held_attached hheld (Device.justifies_transact htransport request))
  | perform primitive => exact hsteady (held_perform htransport primitive hheld)
  | meanwhile change =>
      refine ⟨fun hchange => ⟨hheld.mode_eq, ?_⟩, blames_ok ()⟩
      exact (hchange attached.station.world.world).trans hheld.present_eq

/-- An open that is refused has its own reasons. -/
theorem held_openLink (access : OpenMode)
    (hheld : attached.station.Held (Recorded.behind present) mode) :
    (∃ mode, ((openLink access : Use σ).after transport attached).station.Held
        (Recorded.behind present) mode) ∧
      Blames Elsewhere ((openLink access : Use σ).result transport attached) := by
  rw [after, station_onHandle, result, blames_verdict]
  rcases (Handle.openLink_holds htransport access hheld).exists_outcome with
    ⟨value, after, houtcome, hleft⟩ | ⟨error, after, houtcome, hleft, herror⟩
  · rw [houtcome]
    exact ⟨⟨some access, hleft⟩, blames_ok value⟩
  · rw [houtcome]
    exact ⟨⟨mode, hleft⟩, (blames_error error).mpr herror⟩

/-- A close ends the session, or was refused by a closed handle, which it leaves as it was. -/
theorem held_closeLink (hheld : attached.station.Held (Recorded.behind present) mode) :
    ((closeLink : Use σ).after transport attached).station.Held (Recorded.behind present) none ∧
      ((closeLink : Use σ).result transport attached = .ok () ∨
        mode = none ∧ (closeLink : Use σ).result transport attached = .error (.notOpen "close") ∧
          ((closeLink : Use σ).after transport attached).station = attached.station) := by
  rw [after, station_onHandle, result, verdict]
  rcases (Handle.closeLink_holds htransport hheld).exists_outcome with
    ⟨value, after, houtcome, hleft⟩ | ⟨error, after, houtcome, rfl, rfl, rfl⟩
  · rw [houtcome]
    exact ⟨hleft, .inl rfl⟩
  · rw [houtcome]
    exact ⟨hheld, .inr ⟨rfl, rfl, rfl⟩⟩

/-- Whatever is done with it, a held station is held in some mode afterwards. -/
theorem held_after {use : Use σ} (hsteady : use.Steady present)
    (hheld : attached.station.Held (Recorded.behind present) mode) :
    ∃ mode, (use.after transport attached).station.Held (Recorded.behind present) mode := by
  cases use with
  | openLink access => exact (held_openLink htransport access hheld).1
  | closeLink => exact ⟨none, (held_closeLink htransport hheld).1⟩
  | _ => exact ⟨mode, (held_inside htransport (by simp) (by simp) hheld).1 hsteady⟩

/-- The induction is on the uses; each of them may leave another mode. -/
theorem held_run {uses : List (Use σ)} (hsteady : ∀ use ∈ uses, use.Steady present)
    (hheld : attached.station.Held (Recorded.behind present) mode) :
    ∃ mode, (run transport attached uses).station.Held (Recorded.behind present) mode := by
  induction uses generalizing attached mode with
  | nil => exact ⟨mode, hheld⟩
  | cons use rest ih =>
      rw [List.forall_mem_cons] at hsteady
      obtain ⟨mode, hleft⟩ := held_after htransport hsteady.1 hheld
      exact ih hsteady.2 hleft

theorem blames_result (use : Use σ)
    (hheld : attached.station.Held (Recorded.behind present) mode) :
    Blames (Justified mode) (use.result transport attached) := by
  cases use with
  | openLink access =>
      exact (held_openLink htransport access hheld).2.mono fun _ => Elsewhere.justified
  | closeLink =>
      rcases (held_closeLink htransport hheld).2 with hresult | ⟨rfl, hresult, _⟩
      · rw [hresult]
        exact blames_ok ()
      · rw [hresult]
        exact (blames_error _).mpr (justified_notOpen (by decide))
  | _ => exact (held_inside htransport (by simp) (by simp) hheld).2

/-- A link is not asked for what its handle refuses because it is closed. -/
theorem world_of_refused {use : Use σ} {operation : String}
    (hheld : attached.station.Held (Recorded.behind present) none)
    (hresult : use.result transport attached = .error (.notOpen operation)) :
    (use.after transport attached).station.world = attached.station.world := by
  by_cases hmoves : use.MakesMoves
  · exact (world_of_moves (moves_after transport attached hmoves) hheld.mode_eq).2
  · cases use with
    | openLink access =>
        exact absurd rfl ((held_openLink htransport access hheld).2 _ hresult operation)
    | closeLink =>
        rcases (held_closeLink htransport hheld).2 with hdone | ⟨_, _, hsame⟩
        · exact nomatch hdone.symm.trans hresult
        · rw [hsame]
    | logPackets on => exact nomatch hresult
    | meanwhile change => exact nomatch hresult
    | _ => exact absurd trivial hmoves

theorem vouched (use : Use σ) (hheld : attached.station.Held (Recorded.behind present) mode) :
    use.Vouched present transport attached where
  present_eq := by
    rw [Handle.isOpen, hheld.mode_eq]
    exact hheld.present_eq
  closes := by
    rintro rfl hopen
    rcases (held_closeLink htransport hheld).2 with hdone | ⟨rfl, _, _⟩
    · exact hdone
    · exact absurd hheld.mode_eq ((Handle.isOpen_iff _).mp hopen)
  refuses operation hresult := by
    obtain ⟨rfl, hrefusal⟩ := blames_result htransport use hheld _ hresult operation rfl
    have hown : ∀ name ∈ Handle.refusals,
        name ∉ ["socket access", "serial port access", "event_source"] := by decide
    refine ⟨?_, hrefusal, hown operation hrefusal, world_of_refused htransport hheld hresult⟩
    rw [Handle.isOpen, hheld.mode_eq]
    rfl

end Use

namespace Handle

def fresh (key : Nat) (connection : Connection) (config : LinkConfig) (world : σ) :
    Attached (Recorded σ) :=
  { device := { config }, station := { handle := { key, connection }, world := { world } } }

variable (number key : Nat) (connection : Connection) (config : LinkConfig) (world : σ)

/-- However a handle on a socket or a serial port is used, and whatever comes of its opens
and of every other operation: at every point, its stream or its port is there exactly if the
handle is open.  So an open handle can be closed, and that a link is not open is said by a
closed handle only, in its own name and without a look at the link. -/
theorem vouches_for_link (network : Network σ) (host port : String) (system : PortSystem σ)
    (path : String) :
    (∀ (uses : List (Use (Socket σ))) (use : Use (Socket σ)),
      (∀ earlier ∈ uses, earlier.Steady Socket.connected) →
        let transport := Recorded.transport number (Socket.transport network host port)
        use.Vouched Socket.connected transport
          (Use.run transport (fresh key connection config { world }) uses)) ∧
      ∀ (uses : List (Use (SerialPort σ))) (use : Use (SerialPort σ)),
        (∀ earlier ∈ uses, earlier.Steady SerialPort.attached) →
          let transport := Recorded.transport number (SerialPort.transport system path)
          use.Vouched SerialPort.attached transport
            (Use.run transport (fresh key connection config { world }) uses) := by
  constructor
  · intro uses use hsteady transport
    have htransport : transport.ComesAndGoes (Recorded.behind Socket.connected) :=
      (Socket.comesAndGoes network host port).recorded number
    have hstart : (fresh key connection config { world }).station.Held
        (Recorded.behind Socket.connected) none := ⟨rfl, rfl⟩
    obtain ⟨mode, hheld⟩ := Use.held_run htransport hsteady hstart
    exact Use.vouched htransport use hheld
  · intro uses use hsteady transport
    have htransport : transport.ComesAndGoes (Recorded.behind SerialPort.attached) :=
      (SerialPort.comesAndGoes system path).recorded number
    have hstart : (fresh key connection config { world }).station.Held
        (Recorded.behind SerialPort.attached) none := ⟨rfl, rfl⟩
    obtain ⟨mode, hheld⟩ := Use.held_run htransport hsteady hstart
    exact Use.vouched htransport use hheld

/-- A connection that is refused at first, made, closed twice and made again; and a serial
line that is hung up while its handle is open. -/
theorem vouches_for_link_through_failures :
    let world : Wire :=
      { address := some "plc:4001", reach := .refused, terminal := some "/dev/ttyS0"
        farOpen := true }
    let socket := Recorded.transport 0 (Socket.transport Wire.network "plc" "4001")
    let serial := Recorded.transport 0 (SerialPort.transport Wire.portSystem "/dev/ttyS0")
    let calls : List (Use (Socket Wire)) :=
      [.openLink .readWrite,
        .meanwhile fun socket => { socket with world := { socket.world with reach := .connected } },
        .openLink .readWrite, .write [1] .nonBlocking, .closeLink, .closeLink, .openLink .readWrite,
        .closeLink]
    let hangup : List (Use (SerialPort Wire)) :=
      [.openLink .readWrite, .meanwhile fun port => { port with world := port.world.farClose },
        .flush]
    (∀ earlier ∈ calls, earlier.Steady Socket.connected) ∧
      (∀ earlier ∈ hangup, earlier.Steady SerialPort.attached) ∧
      (Use.drain.Vouched Socket.connected socket
          (Use.run socket (fresh 0 (.tcp "plc" "4001") {} { world }) calls) ∧
        Use.drain.result socket (Use.run socket (fresh 0 (.tcp "plc" "4001") {} { world }) calls) =
          .error (.notOpen "drain")) ∧
      Use.closeLink.Vouched SerialPort.attached serial
          (Use.run serial (fresh 0 (.serial "/dev/ttyS0") {} { world }) hangup) ∧
        (Use.run serial (fresh 0 (.serial "/dev/ttyS0") {} { world })
          hangup).station.handle.isOpen = true := by
  intro world socket serial calls hangup
  have hcalls : ∀ earlier ∈ calls, earlier.Steady Socket.connected := by
    simp [calls, Use.Steady]
  have hhangup : ∀ earlier ∈ hangup, earlier.Steady SerialPort.attached := by
    simp [hangup, Use.Steady]
  have hsocket := (vouches_for_link 0 0 (.tcp "plc" "4001") {} world Wire.network "plc" "4001"
    Wire.portSystem "/dev/ttyS0").1 calls .drain hcalls
  have hserial := (vouches_for_link 0 0 (.serial "/dev/ttyS0") {} world Wire.network "plc" "4001"
    Wire.portSystem "/dev/ttyS0").2 hangup .closeLink hhangup
  exact ⟨hcalls, hhangup, ⟨hsocket, by rfl⟩, hserial, by rfl⟩

end Handle

end InstrumentLink
