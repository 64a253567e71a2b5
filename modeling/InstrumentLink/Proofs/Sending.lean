import InstrumentLink.Device
import InstrumentLink.Proofs.Framing
import InstrumentLink.Proofs.HandleRules
import InstrumentLink.Proofs.RequestLayout

/-!
# Sending a request

A request goes out by any number of short writes.  Whatever relation between
worlds is respected by each of them is respected by the whole; beyond that,
sending changes the device only if it succeeds.
-/

namespace InstrumentLink

open LinkM

variable {σ : Type} {transport : Transport σ} {relation : σ → σ → Prop}

def Request.frame (request : Request) (address : UInt8) : Except LinkError (List UInt8) := do
  let pdu ← request.encode
  Frame.encode address pdu.bytes

namespace Request

variable {request : Request} {address : UInt8} {frame : List UInt8}

/-- A valid request is framed. -/
theorem exists_frame (hvalid : request.validate = .ok ()) (address : UInt8) :
    ∃ frame, request.frame address = .ok frame := by
  obtain ⟨pdu, hencode, hbytes⟩ := exists_encode hvalid
  have hframe := Frame.encode_of_fits address (show 1 ≤ request.layout.length from Nat.succ_pos _)
    (length_layout_le hvalid)
  rw [← hbytes] at hframe
  rw [Request.frame, hencode]
  exact ⟨_, hframe⟩

/-- A framed request was valid. -/
theorem exists_encode_of_frame (hframe : request.frame address = .ok frame) :
    ∃ pdu, request.encode = .ok pdu ∧ Frame.encode address pdu.bytes = .ok frame := by
  rw [Request.frame] at hframe
  cases hencode : request.encode with
  | ok pdu =>
      rw [hencode] at hframe
      exact ⟨pdu, rfl, hframe⟩
  | error error =>
      rw [hencode] at hframe
      cases hframe

theorem ne_nil_of_frame (hframe : request.frame address = .ok frame) : frame ≠ [] := by
  obtain ⟨pdu, _, hencoded⟩ := exists_encode_of_frame hframe
  rw [(Frame.eq_of_encode hencoded).2]
  exact List.cons_ne_nil _ _

end Request

def Attached.opened (config : LinkConfig) (world : σ) : Attached σ where
  device := { config }
  station :=
    { handle := { key := 0, connection := .serial "COM1", mode := some .readWrite }
      world }

/-- Writes, complete or failed, respect a relation between worlds. -/
structure Transport.WritesWithin (transport : Transport σ) (relation : σ → σ → Prop) : Prop where
  refl : ∀ world, relation world world
  trans : ∀ {before between after},
    relation before between → relation between after → relation before after
  written : ∀ {bytes mode before accepted after},
    transport.write bytes mode before = .ok accepted after → relation before after
  failed : ∀ {bytes mode before error after},
    transport.write bytes mode before = .error error after → relation before after

/-- No relation is asked for. -/
theorem Transport.writesWithin_any (transport : Transport σ) :
    transport.WritesWithin fun _ _ => True where
  refl _ := trivial
  trans _ _ := trivial
  written _ := trivial
  failed _ := trivial

namespace Handle

/-- The handle is the same, and the world is another within the relation. -/
def MovedWithin (relation : σ → σ → Prop) (before after : Station σ) : Prop :=
  after.handle = before.handle ∧ relation before.world after.world

variable {before between after : Station σ}

theorem MovedWithin.trans (hwrites : transport.WritesWithin relation)
    (hfirst : MovedWithin relation before between) (hmore : MovedWithin relation between after) :
    MovedWithin relation before after :=
  ⟨hmore.1.trans hfirst.1, hwrites.trans hfirst.2 hmore.2⟩

theorem write_leads (hwrites : transport.WritesWithin relation) (bytes : List UInt8)
    (mode : IoMode) (station : Station σ) :
    Leads (write transport bytes mode) station
      (fun _ after => MovedWithin relation station after ∧ station.handle.isOpen = true)
      (fun _ after => MovedWithin relation station after) := by
  cases hrefused : station.handle.writeRefusal? bytes with
  | some refusal =>
      apply (write_refused transport hrefused mode).mono
      · intro _ _ hfalse
        exact hfalse.elim
      · rintro _ _ ⟨_, rfl⟩
        exact ⟨rfl, hwrites.refl _⟩
  | none =>
      obtain ⟨hmode, hbytes⟩ := writeRefusal?_eq_none_iff.mp hrefused
      have hopen : station.handle.isOpen = true := by
        rw [isOpen, hmode]
        rfl
      apply (write_leads_of_writable transport hmode hbytes mode).mono
      · intro _ after hdone
        exact ⟨⟨hdone.1, hwrites.written hdone.2⟩, hopen⟩
      · intro _ after hfailed
        exact ⟨hfailed.1, hwrites.failed hfailed.2⟩

/-- A buffer that is written goes through an open handle.  The induction is on
the writes in hand; each one starts where the last one ended. -/
theorem writeRest_leads (hwrites : transport.WritesWithin relation)
    (total limit deadline calls : Nat) (rest : List UInt8) (station : Station σ) :
    Leads (writeRest transport total limit deadline calls rest) station
      (fun _ after => MovedWithin relation station after ∧
        (rest ≠ [] → station.handle.isOpen = true))
      (fun _ after => MovedWithin relation station after) := by
  have hsame : ∀ station : Station σ, MovedWithin relation station station :=
    fun station => ⟨rfl, hwrites.refl _⟩
  induction calls generalizing rest station with
  | zero =>
      rw [writeRest]
      split
      · next hempty =>
          exact ⟨hsame station, fun hrest => absurd (List.isEmpty_iff.mp hempty) hrest⟩
      · exact hsame station
  | succ calls ih =>
      rw [writeRest]
      split
      · next hempty =>
          exact ⟨hsame station, fun hrest => absurd (List.isEmpty_iff.mp hempty) hrest⟩
      · simp only [leads_bind, leads_get]
        split
        · simpa using hsame station
        · simp only [leads_bind]
          apply (write_leads hwrites rest _ station).mono
          · intro accepted between hdone
            obtain ⟨hmoved, hopen⟩ := hdone
            apply (ih (rest.drop accepted) between).mono
            · intro _ after hdone
              exact ⟨hmoved.trans hwrites hdone.1, fun _ => hopen⟩
            · intro _ after hfailed
              exact hmoved.trans hwrites hfailed
          · intro _ after hfailed
            exact hfailed

end Handle

open Handle

theorem FramedLink.sendPdu_leads (hwrites : transport.WritesWithin relation)
    (config : LinkConfig) (pdu : List UInt8) (station : Station σ) :
    Leads (sendPdu transport config pdu) station
      (fun _ after => MovedWithin relation station after ∧ station.handle.isOpen = true)
      (fun _ after => MovedWithin relation station after) := by
  simp only [sendPdu, leads_bind]
  apply (leads_ofExcept _ _ _ _).mpr
  constructor
  · intro frame hframe
    simp only [writeAll, leads_bind, leads_get]
    apply (writeRest_leads hwrites _ _ _ _ frame station).mono
    · intro _ after hdone
      refine ⟨hdone.1, hdone.2 ?_⟩
      rw [(Frame.eq_of_encode hframe).2]
      exact List.cons_ne_nil _ _
    · intro _ after hfailed
      exact hfailed
  · intro _ _
    exact ⟨rfl, hwrites.refl _⟩

namespace Device

/-- A request is sent by a device that awaits no reply, through an open handle,
and is then awaited.  A refused or failed request leaves the device alone. -/
theorem send_leads (hwrites : transport.WritesWithin relation) (request : Request)
    (attached : Attached σ) :
    Leads (send transport request) attached
      (fun _ after => attached.device.outstanding = false ∧ request.validate = .ok () ∧
        attached.station.handle.isOpen = true ∧
        after.device =
          { attached.device with outstanding := true, state := .awaitingFirstByte } ∧
        MovedWithin relation attached.station after.station)
      (fun error after => after.device = attached.device ∧
        MovedWithin relation attached.station after.station ∧
        (attached.device.outstanding = true →
          error = .argument .replyOutstanding ∧ after = attached)) := by
  have hsame : MovedWithin relation attached.station attached.station := ⟨rfl, hwrites.refl _⟩
  simp only [send, leads_bind, leads_get]
  by_cases hbusy : attached.device.outstanding = true
  · rw [if_pos hbusy]
    exact ⟨rfl, hsame, fun _ => ⟨rfl, rfl⟩⟩
  · have hidle : attached.device.outstanding = false := by simpa using hbusy
    rw [if_neg hbusy, leads_bind]
    apply (leads_ofExcept _ _ _ _).mpr
    constructor
    · intro pdu hencode
      simp only [onStation, setOutstanding, setState, leads_bind, leads_within, leads_modify]
      apply (FramedLink.sendPdu_leads hwrites _ _ attached.station).mono
      · intro _ after hdone
        exact ⟨hidle, Request.validate_of_encode hencode, hdone.2, trivial, hdone.1⟩
      · intro _ after hfailed
        exact ⟨trivial, hfailed, fun h => absurd h hbusy⟩
    · intro _ _
      exact ⟨rfl, hsame, fun h => absurd h hbusy⟩

/-- A request of a device that awaits no reply goes out by writing all of its frame. -/
theorem outcome_send_of_frame (transport : Transport σ) {request : Request}
    {attached : Attached σ} {frame : List UInt8} (hidle : attached.device.outstanding = false)
    (hframe : request.frame attached.device.config.address = .ok frame) :
    (send transport request).outcome attached =
      match (writeAll transport frame attached.device.config.writeTimeout).outcome
        attached.station with
      | (.ok _, station) =>
          (.ok (),
            { device := { attached.device with outstanding := true, state := .awaitingFirstByte }
              station })
      | (.error error, station) => (.error error, { attached with station }) := by
  obtain ⟨pdu, hencode, hencoded⟩ := Request.exists_encode_of_frame hframe
  refine (leads_iff_outcome _ _ fun result after => (result, after) = _).mp ?_
  simp only [send, FramedLink.sendPdu, hidle, hencode, hencoded, onStation, setOutstanding,
    setState, Bool.false_eq_true, if_false, leads_bind, leads_get, leads_ofExcept_ok,
    leads_within, leads_modify]
  rw [Leads, outcome]
  cases writeAll transport frame _ attached.station <;> rfl

/-- A request without a frame is refused before anything is touched. -/
theorem outcome_send_of_frame_error (transport : Transport σ) {request : Request}
    {attached : Attached σ} {error : LinkError} (hidle : attached.device.outstanding = false)
    (hframe : request.frame attached.device.config.address = .error error) :
    (send transport request).outcome attached = (.error error, attached) := by
  apply Leads.outcome_eq
  simp only [send, hidle, Bool.false_eq_true, if_false, leads_bind, leads_get]
  rw [Request.frame] at hframe
  cases hencode : request.encode with
  | error refusal =>
      rw [hencode] at hframe
      cases hframe
      exact ⟨rfl, rfl⟩
  | ok pdu =>
      rw [hencode] at hframe
      have hencoded : Frame.encode attached.device.config.address pdu.bytes = .error error :=
        hframe
      simp only [leads_ofExcept_ok, onStation, FramedLink.sendPdu, leads_within, leads_bind,
        hencoded, leads_ofExcept_error, and_self]

/-- Only valid requests are sent. -/
theorem validate_of_sent {request : Request} {attached : Attached σ}
    (hsent : ((send transport request).outcome attached).1 = .ok ()) :
    request.validate = .ok () :=
  ((send_leads transport.writesWithin_any request attached).of_ok hsent).2.1

end Device

end InstrumentLink
