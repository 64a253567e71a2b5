import InstrumentLink.Proofs.LineGrammar
import InstrumentLink.Proofs.TransactionErrors
import InstrumentLink.Proofs.TransportUse

/-!
# A link that is there while its handle is open

Whether a link is there is known twice: a handle remembers that it is open, and the link
behind it is in place or not.  A link that comes with an open and goes with a close is in
place exactly while its handle is open, whatever fails in between; so it is never asked for
anything in vain, and who is told that a link is not open was told so by a closed handle.
-/

namespace InstrumentLink

open LinkM

variable {σ τ α β : Type}

def Handle.refusals : List String :=
  ["close", "write", "read", "set_frame_params", "set_handshake_lines", "frame_format", "flush",
    "drain", "register_for_events"]

namespace LinkError

def Elsewhere (error : LinkError) : Prop := ∀ operation, error ≠ .notOpen operation

/-- If the failure is that the link is not open, the handle is closed and says so itself. -/
def Justified (mode : Option OpenMode) (error : LinkError) : Prop :=
  ∀ operation, error = .notOpen operation → mode = none ∧ operation ∈ Handle.refusals

variable {error : LinkError} {mode : Option OpenMode}

theorem Elsewhere.justified (helsewhere : error.Elsewhere) : error.Justified mode :=
  fun operation herror => (helsewhere operation herror).elim

theorem justified_notOpen {operation : String} (hrefusal : operation ∈ Handle.refusals) :
    (notOpen operation).Justified none := by
  rintro _ ⟨⟩
  exact ⟨rfl, hrefusal⟩

theorem OfArgument.elsewhere (hargument : error.OfArgument) : error.Elsewhere := by
  obtain ⟨cause, rfl⟩ := hargument
  exact fun _ herror => by cases herror

theorem Refusal.elsewhere (hrefusal : Refusal error) : error.Elsewhere := by
  cases hrefusal
  exact fun _ herror => by cases herror

end LinkError

open LinkError

/-! ### Encoding and decoding need no link -/

theorem Frame.elsewhere_encode (address : UInt8) (pdu : List UInt8) :
    Blames Elsewhere (Frame.encode address pdu) := by
  rw [encode]
  split
  · exact (blames_error _).mpr (OfArgument.elsewhere ⟨_, rfl⟩)
  · exact blames_ok _

theorem Request.elsewhere_encode (request : Request) : Blames Elsewhere request.encode := by
  by_cases hrange : request.InRange
  · obtain ⟨pdu, hencode, _⟩ := exists_encode (validate_of_inRange hrange)
    rw [hencode]
    exact blames_ok _
  · rw [encode_of_not_inRange hrange]
    exact (blames_error _).mpr (OfArgument.elsewhere ⟨_, rfl⟩)

theorem Request.elsewhere_checked (request : Request) : Blames Elsewhere request.checked := by
  by_cases hrange : request.InRange
  · rw [checked_of_inRange hrange]
    exact blames_ok _
  · rw [checked_of_not_inRange hrange]
    exact (blames_error _).mpr (OfArgument.elsewhere ⟨_, rfl⟩)

/-- What decoding blames is the frame or the device. -/
theorem Request.elsewhere_decodeReply (request : Request) (reply : List UInt8) :
    Blames Elsewhere (request.decodeReply reply) := by
  have hprotocol : ∀ cause, (LinkError.protocol cause).Elsewhere := fun _ _ herror => by
    cases herror
  cases reply with
  | nil => exact (blames_error _).mpr (hprotocol _)
  | cons function body =>
      simp only [decodeReply]
      split
      · cases body with
        | nil => exact (blames_error _).mpr (hprotocol _)
        | cons code rest => exact (blames_error _).mpr fun _ herror => by cases herror
      · split
        · exact (blames_error _).mpr (hprotocol _)
        · split
          · exact (Reply.refusal_decodeCounted _ _ _).mono fun _ => Refusal.elsewhere
          · simp only [Reply.decodeEcho]
            apply request.elsewhere_encode.bind
            intro sent
            split
            · exact (blames_error _).mpr (hprotocol _)
            · split
              · exact blames_ok _
              · exact (blames_error _).mpr (hprotocol _)
          · rw [Reply.decodeHeaderEcho]
            apply request.elsewhere_encode.bind
            intro sent
            split
            · exact (blames_error _).mpr (hprotocol _)
            · exact blames_ok _

/-! ### Nor does a reactor -/

theorem Reactor.elsewhere_register (reactor : Reactor) (entry : Entry) :
    Blames Elsewhere (reactor.register entry).1 := by
  rw [register]
  split
  · exact (blames_error _).mpr fun _ herror => by cases herror
  · split
    · exact (blames_error _).mpr (OfArgument.elsewhere ⟨_, rfl⟩)
    · exact blames_ok _

theorem Reactor.elsewhere_unregister (reactor : Reactor) (key : Nat) :
    Blames Elsewhere (reactor.unregister key).1 := by
  rw [unregister]
  split
  · exact (blames_error _).mpr fun _ herror => by cases herror
  · split
    · exact blames_ok _
    · exact (blames_error _).mpr (OfArgument.elsewhere ⟨_, rfl⟩)

theorem EventSlot.elsewhere_register (slot : EventSlot) (reactor : Reactor) (key : Nat)
    (wish : Wish) : Blames Elsewhere (slot.register reactor key wish).1 := by
  rw [register]
  split
  · exact (blames_error _).mpr (OfArgument.elsewhere ⟨_, rfl⟩)
  · split
    · exact (blames_error _).mpr (OfArgument.elsewhere ⟨_, rfl⟩)
    · exact Reactor.elsewhere_register _ _

theorem EventSlot.elsewhere_unregister (slot : EventSlot) (reactor : Reactor) (key : Nat) :
    Blames Elsewhere (slot.unregister reactor key).1 := by
  rw [unregister]
  split
  · exact (blames_error _).mpr (OfArgument.elsewhere ⟨_, rfl⟩)
  · dsimp only
    split
    · exact Reactor.elsewhere_unregister _ _
    · exact blames_ok _

/-! ### Links that come and go with their session -/

/-- An operation that needs a link leaves it in place, and does not fail for want of it. -/
def LinkM.Serves (present : σ → Bool) (action : LinkM σ α) : Prop :=
  ∀ world, present world = true → Leads action world (fun _ after => present after = true)
    (fun error after => present after = true ∧ error.Elsewhere)

/-- A link that an open puts in place, if it succeeds, and a close takes away without fail. -/
structure Transport.ComesAndGoes (transport : Transport σ) (present : σ → Bool) : Prop where
  openLink : ∀ mode world, present world = false →
    Leads (transport.openLink mode) world (fun _ after => present after = true)
      (fun error after => present after = false ∧ error.Elsewhere)
  closeLink : ∀ world, present world = true →
    Leads transport.closeLink world (fun _ after => present after = false) (fun _ _ => False)
  write : ∀ bytes mode, Serves present (transport.write bytes mode)
  read : ∀ room mode, Serves present (transport.read room mode)
  setLineParams : ∀ params, Serves present (transport.setLineParams params)
  setHandshakeLines : ∀ rts dtr, Serves present (transport.setHandshakeLines rts dtr)
  charFormat : Serves present transport.charFormat
  queuedInput : Serves present transport.queuedInput
  flush : Serves present transport.flush
  drain : Serves present transport.drain
  eventSource : Serves present transport.eventSource

/-- A handle in a mode, with its link in place exactly if it is open. -/
structure Station.Held (present : σ → Bool) (mode : Option OpenMode) (station : Station σ) :
    Prop where
  mode_eq : station.handle.mode = mode
  present_eq : present station.world = mode.isSome

/-- At a station that is held, an operation answers well or fails for a good reason, and the
station is held as before. -/
def LinkM.Justifies (present : σ → Bool) (mode : Option OpenMode) (view : τ → Station σ)
    (action : LinkM τ α) (good : α → Prop) : Prop :=
  ∀ world, (view world).Held present mode →
    Leads action world (fun value after => (view after).Held present mode ∧ good value)
      (fun error after => (view after).Held present mode ∧ error.Justified mode)

namespace LinkM

variable {present : σ → Bool} {mode : Option OpenMode} {view : τ → Station σ}
variable {action : LinkM τ α} {good : α → Prop} {next : α → LinkM τ β} {better : β → Prop}

theorem justifies_pure {value : α} (hgood : good value) :
    Justifies present mode view (pure value : LinkM τ α) good :=
  fun _ hheld => ⟨hheld, hgood⟩

theorem justifies_throw {error : LinkError} (herror : error.Justified mode) :
    Justifies present mode view (throw error : LinkM τ α) good :=
  fun _ hheld => ⟨hheld, herror⟩

theorem justifies_get : Justifies present mode view (get : LinkM τ τ) fun _ => True :=
  fun _ hheld => ⟨hheld, trivial⟩

theorem justifies_modify {change : τ → τ}
    (hchange : ∀ world, (view world).Held present mode → (view (change world)).Held present mode) :
    Justifies present mode view (modify change : LinkM τ PUnit) fun _ => True :=
  fun world hheld => ⟨hchange world hheld, trivial⟩

theorem justifies_ofExcept {result : Except LinkError α} (hresult : Blames Elsewhere result) :
    Justifies present mode view (LinkM.ofExcept result : LinkM τ α) fun _ => True := by
  intro world hheld
  rw [leads_ofExcept]
  exact ⟨fun _ _ => ⟨hheld, trivial⟩,
    fun error herror => ⟨hheld, (hresult error herror).justified⟩⟩

/-- What the first operation answers well is all that the second one needs. -/
theorem Justifies.bind (haction : Justifies present mode view action good)
    (hnext : ∀ value, good value → Justifies present mode view (next value) better) :
    Justifies present mode view (action >>= next) better := by
  intro world hheld
  rw [leads_bind]
  apply (haction world hheld).mono
  · rintro value after ⟨hheld, hgood⟩
    exact hnext value hgood after hheld
  · intro _ _ hfailed
    exact hfailed

/-- A failure that is kept as a value has as good a reason as one that is not. -/
theorem Justifies.attempt (haction : Justifies present mode view action good) :
    Justifies present mode view (LinkM.attempt action)
      fun result => Blames (Justified mode) result := by
  intro world hheld
  rw [leads_attempt]
  apply (haction world hheld).mono
  · rintro value after ⟨hheld, _⟩
    exact ⟨hheld, blames_ok value⟩
  · rintro error after ⟨hheld, herror⟩
    exact ⟨hheld, (blames_error error).mpr herror⟩

theorem Justifies.within {part : α → τ} {put : α → τ → α} {inner : LinkM τ β}
    (hinner : Justifies present mode view inner better)
    (hput : ∀ world left, part (put world left) = left) :
    Justifies present mode (fun world => view (part world)) (LinkM.within part put inner)
      better := by
  intro world hheld
  rw [leads_within]
  simp only [hput]
  exact hinner (part world) hheld

end LinkM

namespace Handle

open Station

variable {present : σ → Bool} {mode : Option OpenMode} {transport : Transport σ}

/-- The guard is where a closed handle refuses, and it lets nothing else through. -/
theorem justifies_requireOpen {operation : String} (hrefusal : operation ∈ refusals) :
    Justifies present mode id (requireOpen operation) fun _ => mode ≠ none := by
  intro station hheld
  rw [leads_requireOpen]
  constructor
  · intro access haccess
    refine ⟨hheld, ?_⟩
    rw [← hheld.mode_eq]
    exact haccess ▸ Option.some_ne_none access
  · intro hclosed
    have hmode : mode = none := hheld.mode_eq.symm.trans hclosed
    subst hmode
    exact ⟨hheld, justified_notOpen hrefusal⟩

/-- An open handle has its link in place, so that a call cannot fail for want of it. -/
theorem justifies_call {action : LinkM σ α} (hopen : mode ≠ none)
    (hserves : Serves present action) :
    Justifies present mode id (call action) fun _ => True := by
  intro station hheld
  have hsome : mode.isSome = true := Option.isSome_iff_ne_none.mpr hopen
  rw [call, leads_within]
  apply (hserves station.world (hheld.present_eq.trans hsome)).mono
  · intro _ after hpresent
    exact ⟨⟨hheld.mode_eq, hpresent.trans hsome.symm⟩, trivial⟩
  · rintro error after ⟨hpresent, herror⟩
    exact ⟨⟨hheld.mode_eq, hpresent.trans hsome.symm⟩, herror.justified⟩

theorem justifies_setHandle {change : Handle → Handle}
    (hchange : ∀ handle, (change handle).mode = handle.mode) :
    Justifies present mode id (setHandle change : LinkM (Station σ) Unit) fun _ => True :=
  justifies_modify fun _ hheld => ⟨(hchange _).trans hheld.mode_eq, hheld.present_eq⟩

theorem justifies_report (line : LogLine) :
    Justifies present mode id (report line : LinkM (Station σ) Unit) fun _ => True :=
  justifies_modify fun _ hheld => ⟨hheld.mode_eq, hheld.present_eq⟩

theorem justifies_logPacket (direction : Direction) (bytes : List UInt8) :
    Justifies present mode id (logPacket transport direction bytes) fun _ => True := by
  intro station hheld
  apply (logPacket_leads transport direction bytes station).mono
  · rintro _ after ⟨hhandle, hworld⟩
    exact ⟨⟨hhandle ▸ hheld.mode_eq, hworld ▸ hheld.present_eq⟩, trivial⟩
  · intro _ _ hfalse
    exact hfalse.elim

/-- An operation that asks for an open handle and nothing else. -/
theorem justifies_guarded {name : String} {action : LinkM σ α} (hrefusal : name ∈ refusals)
    (hserves : Serves present action) :
    Justifies present mode id (requireOpen name >>= fun _ => call action) fun _ => True :=
  (justifies_requireOpen hrefusal).bind fun _ hopen => justifies_call hopen hserves

variable (htransport : transport.ComesAndGoes present)
include htransport

/-- A closed handle is found out before its access and its buffer are looked at. -/
theorem justifies_write (bytes : List UInt8) (limit : IoMode) :
    Justifies present mode id (write transport bytes limit) fun _ => True := by
  apply (justifies_requireOpen (by decide)).bind
  intro access hopen
  dsimp only
  split
  · exact justifies_get.bind fun _ _ => justifies_throw (OfArgument.elsewhere ⟨_, rfl⟩).justified
  · split
    · exact justifies_throw (OfArgument.elsewhere ⟨_, rfl⟩).justified
    · apply (justifies_call hopen (htransport.write bytes limit)).bind
      intro accepted _
      exact (justifies_logPacket _ _).bind fun _ _ => justifies_pure trivial

theorem justifies_read (room : Nat) (limit : IoMode) :
    Justifies present mode id (read transport room limit) fun _ => True := by
  apply (justifies_requireOpen (by decide)).bind
  intro access hopen
  dsimp only
  split
  · exact justifies_throw (OfArgument.elsewhere ⟨_, rfl⟩).justified
  · apply (justifies_call hopen (htransport.read room limit)).bind
    intro bytes _
    exact (justifies_logPacket _ _).bind fun _ _ => justifies_pure trivial

theorem justifies_setLineParams (params : LineParams) :
    Justifies present mode id (setLineParams transport params) fun _ => True := by
  apply (justifies_requireOpen (by decide)).bind
  intro access hopen
  apply (justifies_ofExcept
    ((LineParams.blames_validate params).mono fun _ => OfArgument.elsewhere)).bind
  intro _ _
  apply (justifies_call hopen (htransport.setLineParams params)).bind
  intro _ _
  apply justifies_get.bind
  intro _ _
  exact (justifies_report _).bind fun _ _ => justifies_setHandle fun _ => rfl

theorem justifies_setHandshakeLines (rts dtr : Option Bool) :
    Justifies present mode id (setHandshakeLines transport rts dtr) fun _ => True :=
  justifies_guarded (by decide) (htransport.setHandshakeLines rts dtr)

theorem justifies_charFormat : Justifies present mode id (charFormat transport) fun _ => True :=
  justifies_guarded (by decide) htransport.charFormat

theorem justifies_flush : Justifies present mode id (flush transport) fun _ => True :=
  justifies_guarded (by decide) htransport.flush

theorem justifies_drain : Justifies present mode id (drain transport) fun _ => True :=
  justifies_guarded (by decide) htransport.drain

theorem justifies_eventSource : Justifies present mode id (eventSource transport) fun _ => True :=
  justifies_guarded (by decide) htransport.eventSource

theorem justifies_transferTimeout? (bytes : Nat) :
    Justifies present mode id (transferTimeout? transport bytes) fun _ => True :=
  (justifies_charFormat htransport).attempt.bind fun _ _ => justifies_pure trivial

theorem justifies_queuedInput :
    Justifies present mode id (queuedInput transport) fun _ => True := by
  intro station hheld
  simp only [queuedInput, leads_bind, leads_get]
  split
  · next hopen =>
      have hsome : mode ≠ none := by
        rw [← hheld.mode_eq]
        exact (isOpen_iff _).mp hopen
      have hcall := (justifies_call hsome htransport.queuedInput).attempt
      refine (hcall.bind fun result _ => ?_) station hheld
      split
      · exact justifies_pure trivial
      · exact justifies_get.bind fun _ _ =>
          (justifies_report _).bind fun _ _ => justifies_pure trivial
  · exact ⟨hheld, trivial⟩

/-- The induction is on the writes in hand, as in `writeRest`. -/
theorem justifies_writeRest (total limit deadline calls : Nat) (rest : List UInt8) :
    Justifies present mode id (writeRest transport total limit deadline calls rest)
      fun _ => True := by
  induction calls generalizing rest with
  | zero =>
      rw [writeRest]
      split
      · exact justifies_pure trivial
      · exact justifies_throw (Elsewhere.justified fun _ herror => by cases herror)
  | succ calls ih =>
      rw [writeRest]
      split
      · exact justifies_pure trivial
      · apply justifies_get.bind
        intro station _
        dsimp only
        split
        · exact justifies_throw (Elsewhere.justified fun _ herror => by cases herror)
        · exact (justifies_write htransport rest _).bind fun accepted _ => ih (rest.drop accepted)

theorem justifies_writeAll (bytes : List UInt8) (limit : Nat) :
    Justifies present mode id (writeAll transport bytes limit) fun _ => True :=
  justifies_get.bind fun _ _ => justifies_writeRest htransport _ _ _ _ bytes

/-- Opening puts the link in place, or leaves a closed handle closed and its link away. -/
theorem openLink_holds {station : Station σ} (access : OpenMode)
    (hheld : station.Held present mode) :
    Leads (openLink transport access) station
      (fun _ after => after.Held present (some access))
      (fun error after => after.Held present mode ∧ error.Elsewhere) := by
  simp only [openLink, leads_bind, leads_get]
  split
  · exact ⟨hheld, OfArgument.elsewhere ⟨_, rfl⟩⟩
  · next hnot =>
      have hclosed : station.handle.mode = none := by simpa using mt (isOpen_iff _).mpr hnot
      have hmode : mode = none := hheld.mode_eq.symm.trans hclosed
      subst hmode
      simp only [leads_bind, reportAll, setHandle, report, leads_modify, call, leads_within]
      apply (htransport.openLink access station.world hheld.present_eq).mono
      · intro lines world hpresent
        exact ⟨rfl, hpresent⟩
      · rintro error world ⟨habsent, herror⟩
        exact ⟨⟨hheld.mode_eq, habsent⟩, herror⟩

/-- Closing an open handle always succeeds, and takes the link away. -/
theorem closeLink_holds {station : Station σ} (hheld : station.Held present mode) :
    Leads (closeLink transport) station (fun _ after => after.Held present none)
      (fun error after => after = station ∧ mode = none ∧ error = .notOpen "close") := by
  simp only [closeLink, leads_bind, leads_requireOpen]
  constructor
  · intro access haccess
    have hsome : mode.isSome = true := by
      rw [← hheld.mode_eq, haccess]
      rfl
    simp only [setHandle, leads_modify, report, leads_get, call, leads_within]
    apply (htransport.closeLink station.world (hheld.present_eq.trans hsome)).mono
    · intro _ world habsent
      exact ⟨rfl, habsent⟩
    · intro _ _ hfalse
      exact hfalse.elim
  · intro hclosed
    exact ⟨trivial, hheld.mode_eq.symm.trans hclosed, trivial⟩

theorem justifies_registerForEvents (wish : EventSlot.Wish) :
    Justifies present mode Prod.fst (registerForEvents transport wish) fun _ => True := by
  apply ((justifies_eventSource htransport).within fun _ _ => rfl).bind
  intro source _ both hheld
  simp only [leads_bind, leads_get, leads_set, leads_ofExcept]
  exact ⟨fun _ _ => ⟨⟨hheld.mode_eq, hheld.present_eq⟩, trivial⟩, fun error herror =>
    ⟨⟨hheld.mode_eq, hheld.present_eq⟩,
      (EventSlot.elsewhere_register _ _ _ _ error herror).justified⟩⟩

omit htransport in
theorem justifies_unregisterFromEvents :
    Justifies present mode Prod.fst
      (unregisterFromEvents : LinkM (Station σ × Reactor) Unit) fun _ => True := by
  intro both hheld
  simp only [unregisterFromEvents, leads_bind, leads_get, leads_set, leads_ofExcept]
  exact ⟨fun _ _ => ⟨⟨hheld.mode_eq, hheld.present_eq⟩, trivial⟩, fun error herror =>
    ⟨⟨hheld.mode_eq, hheld.present_eq⟩,
      (EventSlot.elsewhere_unregister _ _ _ error herror).justified⟩⟩

end Handle

namespace FramedLink

variable {present : σ → Bool} {mode : Option OpenMode} {transport : Transport σ}
variable (htransport : transport.ComesAndGoes present)
include htransport

theorem justifies_sendPdu (config : LinkConfig) (pdu : List UInt8) :
    Justifies present mode id (sendPdu transport config pdu) fun _ => True :=
  (justifies_ofExcept (Frame.elsewhere_encode _ _)).bind fun frame _ =>
    Handle.justifies_writeAll htransport frame _

/-- What stopped a part is kept beside what arrived of it.  The induction is on the reads in
hand, as in `gather`. -/
theorem justifies_gather (timeout : Nat) (part : String) (total calls since : Nat)
    (got : List UInt8) :
    Justifies present mode id (gather transport timeout part total calls since got)
      fun received => ∀ error, received.failure = some error → error.Justified mode := by
  have hother : ∀ {error : LinkError}, error.Elsewhere →
      ∀ failure, some error = some failure → failure.Justified mode := by
    rintro error helsewhere _ ⟨⟩
    exact helsewhere.justified
  induction calls generalizing since got with
  | zero =>
      rw [gather]
      split
      · exact justifies_pure fun _ hnone => by cases hnone
      · exact justifies_pure (hother fun _ herror => by cases herror)
  | succ calls ih =>
      rw [gather]
      split
      · exact justifies_pure fun _ hnone => by cases hnone
      · apply (Handle.justifies_read htransport _ _).attempt.bind
        intro result hresult
        apply justifies_get.bind
        intro station _
        dsimp only
        split
        · refine justifies_pure ?_
          rintro _ ⟨⟩
          exact (blames_error _).mp hresult
        · split
          · exact justifies_pure (hother fun _ herror => by cases herror)
          · exact ih _ _
        · exact ih _ _

theorem justifies_receivePart (timeout : Nat) (part : String) (total : Nat) :
    Justifies present mode id (receivePart transport timeout part total)
      fun received => ∀ error, received.failure = some error → error.Justified mode :=
  justifies_get.bind fun _ _ => justifies_gather htransport timeout part total _ _ []

theorem justifies_readExact (timeout : Nat) (part : String) (total : Nat) :
    Justifies present mode id (readExact transport timeout part total) fun _ => True := by
  apply (justifies_receivePart htransport timeout part total).bind
  intro received hreceived
  split
  · next error hfailure => exact justifies_throw (hreceived error hfailure)
  · exact justifies_pure trivial

theorem justifies_readAddress (config : LinkConfig) :
    Justifies present mode id (readAddress transport config) fun _ => True := by
  apply (justifies_readExact htransport _ _ _).bind
  intro bytes _
  dsimp only
  split
  · exact justifies_throw (Elsewhere.justified fun _ herror => by cases herror)
  · exact justifies_pure trivial

theorem justifies_readChecksum (config : LinkConfig) (pdu : List UInt8) :
    Justifies present mode id (readChecksum transport config pdu) fun _ => True :=
  (justifies_readExact htransport _ _ _).bind fun _ _ =>
    justifies_ofExcept ((Frame.refusal_verify _ _ _).mono fun _ => Refusal.elsewhere)

end FramedLink

namespace Device

variable {present : σ → Bool} {mode : Option OpenMode} {transport : Transport σ}

theorem justifies_onStation {action : LinkM (Station σ) α} {good : α → Prop}
    (haction : Justifies present mode id action good) :
    Justifies present mode Attached.station (onStation action) good :=
  haction.within fun _ _ => rfl

theorem justifies_setState (state : ReplyState) :
    Justifies present mode Attached.station (setState state : LinkM (Attached σ) Unit)
      fun _ => True :=
  justifies_modify fun _ hheld => hheld

theorem justifies_setOutstanding (outstanding : Bool) :
    Justifies present mode Attached.station
      (setOutstanding outstanding : LinkM (Attached σ) Unit) fun _ => True :=
  justifies_modify fun _ hheld => hheld

variable (htransport : transport.ComesAndGoes present)
include htransport

theorem justifies_send (request : Request) :
    Justifies present mode Attached.station (send transport request) fun _ => True := by
  apply justifies_get.bind
  intro attached _
  dsimp only
  split
  · exact justifies_throw (OfArgument.elsewhere ⟨_, rfl⟩).justified
  · apply (justifies_ofExcept request.elsewhere_encode).bind
    intro pdu _
    apply (justifies_onStation (FramedLink.justifies_sendPdu htransport _ _)).bind
    intro _ _
    exact (justifies_setOutstanding true).bind fun _ _ => justifies_setState _

theorem justifies_accumulate (request : Request) :
    Justifies present mode Attached.station (accumulate transport request) fun _ => True := by
  apply justifies_get.bind
  intro attached _
  apply (justifies_setState _).bind
  intro _ _
  apply (justifies_onStation (FramedLink.justifies_readExact htransport _ _ _)).bind
  intro first _
  dsimp only
  split
  · exact justifies_throw (Elsewhere.justified fun _ herror => by cases herror)
  · apply (justifies_setState _).bind
    intro _ _
    apply (justifies_onStation (FramedLink.justifies_readExact htransport _ _ _)).bind
    intro rest _
    exact (justifies_setState _).bind fun _ _ => justifies_ofExcept
      ((Pdu.blames_ofBytes _).mono fun _ => OfArgument.elsewhere)

theorem justifies_readReply (request : Request) :
    Justifies present mode Attached.station (readReply transport request) fun _ => True := by
  apply justifies_get.bind
  intro attached _
  apply (justifies_onStation (FramedLink.justifies_readAddress htransport _)).bind
  intro _ _
  apply (justifies_accumulate htransport request).bind
  intro pdu _
  apply (justifies_onStation (FramedLink.justifies_readChecksum htransport _ _)).bind
  intro _ _
  exact justifies_ofExcept (request.elsewhere_decodeReply _)

theorem justifies_receive (request : Request) :
    Justifies present mode Attached.station (receive transport request) fun _ => True := by
  apply (justifies_setOutstanding false).bind
  intro _ _
  apply (justifies_readReply htransport request).attempt.bind
  intro result hresult
  split
  · exact justifies_pure trivial
  · exact justifies_throw (Elsewhere.justified fun _ herror => by cases herror)
  · apply (justifies_setState _).bind
    intro _ _
    apply (justifies_onStation (Handle.justifies_flush htransport)).attempt.bind
    intro _ _
    exact justifies_throw ((blames_error _).mp hresult)

theorem justifies_cancel :
    Justifies present mode Attached.station (cancel transport) fun _ => True := by
  apply (justifies_setOutstanding false).bind
  intro _ _
  exact (justifies_setState _).bind fun _ _ =>
    justifies_onStation (Handle.justifies_flush htransport)

theorem justifies_transact (request : Request) :
    Justifies present mode Attached.station (transact transport request) fun _ => True :=
  (justifies_send htransport request).bind fun _ _ => justifies_receive htransport request

end Device

end InstrumentLink
