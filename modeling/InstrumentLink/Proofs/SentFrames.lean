import InstrumentLink.Proofs.Conversation
import InstrumentLink.Proofs.ShortWrites
import InstrumentLink.Proofs.WritingRules

/-!
# What of a request reaches the link

A request goes out as a whole or the device does not know of it.  Whatever stops it
before its last byte leaves the device as it was, so that the request can be sent
again: the link never took all of its frame.
-/

namespace InstrumentLink

open LinkM WriteCall Posted Handle

variable {σ : Type} {transport : Transport σ} {request : Request}

/-- An invalid request, one while a reply is outstanding, and one for a handle that is not
open for writing are refused before the link is called. -/
theorem Device.outcome_send_of_unsent (transport : Transport σ) {attached : Attached σ}
    (hunsent : request.validate ≠ .ok () ∨ attached.device.outstanding = true ∨
      attached.station.handle.mode ≠ some .readWrite) :
    ∃ error, (send transport request).outcome attached = (.error error, attached) := by
  by_cases hbusy : attached.device.outstanding = true
  · exact ⟨_, (send_refused request hbusy).outcome_eq⟩
  · have hidle : attached.device.outstanding = false := by simpa using hbusy
    cases hframe : request.frame attached.device.config.address with
    | error error => exact ⟨error, outcome_send_of_frame_error transport hidle hframe⟩
    | ok frame =>
        obtain ⟨pdu, hencode, _⟩ := Request.exists_encode_of_frame hframe
        have hmode : attached.station.handle.mode ≠ some .readWrite :=
          (hunsent.resolve_left (not_not_intro (Request.validate_of_encode hencode))).resolve_left
            hbusy
        have hrefused : attached.station.handle.writeRefusal? frame ≠ none :=
          fun hnone => hmode (writeRefusal?_eq_none_iff.mp hnone).1
        obtain ⟨refusal, hrefusal⟩ := Option.ne_none_iff_exists'.mp hrefused
        obtain ⟨error, herror⟩ := exists_error_of_unwritten (Request.ne_nil_of_frame hframe)
          attached.device.config.writeTimeout refusal
        exact ⟨error, by rw [send_of_refused hidle hframe hrefusal, herror]⟩

namespace Posted

open Device

/-- What a link took of a request, and what became of the device. -/
structure Transmission (request : Request) (before : Device) (calls : List WriteCall)
    (result : Except LinkError Unit) (after : Device) : Prop where
  /-- A request that was sent was taken as a whole, and is awaited. -/
  sent : result = .ok () →
    after = { before with outstanding := true, state := .awaitingFirstByte } ∧
      request.frame before.config.address = .ok (taken calls)
  /-- Of another one some last byte is missing, and the device is as it was. -/
  failed : ∀ error, result = .error error → after = before ∧
    ∀ frame, request.frame before.config.address = .ok frame →
      taken calls <+: frame ∧ taken calls ≠ frame

theorem transmission_of_send {attached after : Attached (Posted σ)}
    {result : Except LinkError Unit} (hfresh : attached.station.world.calls = [])
    (houtcome : (send (link transport) request).outcome attached = (result, after)) :
    Transmission request attached.device after.station.world.calls result after.device := by
  by_cases hunsent : request.validate ≠ .ok () ∨ attached.device.outstanding = true ∨
      attached.station.handle.mode ≠ some .readWrite
  -- What is refused leaves an empty record, which begins every frame and is none.
  · obtain ⟨error, hrefused⟩ := outcome_send_of_unsent (link transport) hunsent
    rw [hrefused] at houtcome
    cases houtcome
    rw [hfresh]
    refine ⟨nofun, fun _ _ => ⟨rfl, fun frame hframe => ⟨List.nil_prefix, ?_⟩⟩⟩
    exact (Request.ne_nil_of_frame hframe).symm
  · obtain ⟨hvalid, hidle, hwritable⟩ : request.validate = .ok () ∧
        attached.device.outstanding = false ∧
        attached.station.handle.mode = some .readWrite := by
      simpa [not_or] using hunsent
    obtain ⟨frame, hframe⟩ := Request.exists_frame hvalid attached.device.config.address
    rw [outcome_send_of_frame _ hidle hframe] at houtcome
    generalize hwrite : (writeAll (link transport) frame _).outcome attached.station = ended
      at houtcome
    obtain ⟨written | ⟨⟩, station⟩ := ended
    · cases houtcome
      have hhandover := handover_of_writeAll hwritable hfresh hwrite
      refine ⟨nofun, fun _ _ => ⟨rfl, fun other hother => ?_⟩⟩
      obtain rfl := Except.ok.inj (hframe.symm.trans hother)
      exact ⟨hhandover.taken_isPrefix, fun hall => nomatch hhandover.ok_iff.mpr hall⟩
    · cases houtcome
      have hall := (handover_of_writeAll hwritable hfresh hwrite).ok_iff.mp rfl
      exact ⟨fun _ => ⟨rfl, hframe.trans (congrArg _ hall.symm)⟩, nofun⟩

/-- A valid request has a frame.  If it is sent, the link has taken exactly that frame;
if it is not, the device is as it was and the link has not taken all of the frame.  An
invalid request, a reply that is outstanding, or a handle that is not open for writing
keeps the link from being called at all.  That writes are recorded changes nothing. -/
theorem failed_send_has_no_effect (transport : Transport σ) (request : Request)
    (attached : Attached (Posted σ)) (hfresh : attached.station.world.calls = []) :
    Mirrors (Attached.seen Posted.world) (send (link transport) request)
        (send transport request) attached ∧
      (request.validate = .ok () → ∀ address, ∃ frame, request.frame address = .ok frame) ∧
      (∀ result after, (send (link transport) request).outcome attached = (result, after) →
        Transmission request attached.device after.station.world.calls result after.device) ∧
      (request.validate ≠ .ok () ∨ attached.device.outstanding = true ∨
          attached.station.handle.mode ≠ some .readWrite →
        ∃ error, (send (link transport) request).outcome attached = (.error error, attached)) :=
  ⟨mirrors_send (link_observesWrites transport) request attached, Request.exists_frame,
    fun _ _ => transmission_of_send hfresh, outcome_send_of_unsent (link transport)⟩

open Scripted in
/-- A request that is given up after five of its eight bytes. -/
theorem failed_send_has_no_effect_halfway :
    let faults : List (FaultPoint × Fault) :=
      [(.write, { delay := 10, short := some 3 }), (.write, { delay := 40, short := some 2 })]
    let attached : Attached (Posted (Faulty State)) :=
      .opened { writeTimeout := 30 } { world := { world := {}, faults } }
    attached.station.world.calls = [] ∧
      (Request.readRegisters 0 1).frame 1 = .ok [1, 3, 0, 0, 0, 1, 132, 10] ∧
      ∃ ended, (send (link faultyLink) (.readRegisters 0 1)).outcome attached = ended ∧
        ended.1 = .error (.timeout (.writing 8 5) 30) ∧
        taken ended.2.station.world.calls = [1, 3, 0, 0, 0] ∧
        Transmission (.readRegisters 0 1) attached.device ended.2.station.world.calls ended.1
          ended.2.device := by
  intro faults attached
  obtain ⟨_, _, htransmission, _⟩ :=
    failed_send_has_no_effect faultyLink (.readRegisters 0 1) attached rfl
  exact ⟨rfl, by decide +kernel, _, rfl, by decide +kernel, by decide +kernel,
    htransmission _ _ (Prod.eta _).symm⟩

end Posted

end InstrumentLink
