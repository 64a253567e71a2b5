import InstrumentLink.Proofs.Sending
import InstrumentLink.Transport.Scripted
import Mathlib.Data.List.Basic

/-!
# The rules of writing

Bytes are written through a handle that is open for writing, and a buffer to be
written is not empty.  A single write asks for this first.  A write of all bytes
only asks once it comes to hand something over, and so do the sending of a message
body and of a request: with nothing to write, or with no time to write it in, the
rules are never looked at.
-/

namespace InstrumentLink

open LinkM

variable {σ : Type}

/-- How the writing of all of a buffer ends that is refused: with nothing to write, it
is done; without time, it is given up. -/
def Handle.unwritten (bytes : List UInt8) (limit : Nat) (refusal : LinkError) :
    Except LinkError Unit :=
  if bytes = [] then .ok ()
  else if limit = 0 then .error (.timeout (.writing bytes.length 0) 0)
  else .error refusal

variable {transport : Transport σ} {station : Station σ} {bytes : List UInt8}
variable {refusal : LinkError}

namespace Handle

/-- No refusal is a silence of the link. -/
theorem isTimeout_of_writeRefusal {handle : Handle}
    (hrefused : handle.writeRefusal? bytes = some refusal) : refusal.isTimeout = false := by
  rw [writeRefusal?] at hrefused
  split at hrefused
  · cases hrefused
    rfl
  · cases hrefused
    rfl
  · split at hrefused
    · cases hrefused
      rfl
    · cases hrefused

theorem exists_error_of_unwritten (hbytes : bytes ≠ []) (limit : Nat) (refusal : LinkError) :
    ∃ error, unwritten bytes limit refusal = .error error := by
  rw [unwritten, if_neg hbytes]
  split
  · exact ⟨_, rfl⟩
  · exact ⟨_, rfl⟩

theorem unwritten_eq_refusal_iff (hrefused : station.handle.writeRefusal? bytes = some refusal)
    (limit : Nat) : unwritten bytes limit refusal = .error refusal ↔ bytes ≠ [] ∧ limit ≠ 0 := by
  have hspoken : LinkError.timeout (.writing bytes.length 0) 0 ≠ refusal := by
    intro htimeout
    have hnone := isTimeout_of_writeRefusal hrefused
    rw [← htimeout] at hnone
    cases hnone
  rw [unwritten]
  by_cases hempty : bytes = []
  · simp [hempty]
  · by_cases hlimit : limit = 0
    · simp [hempty, hlimit, hspoken]
    · simp [hempty, hlimit]

/-- The buffer and the time are looked at before the handle is. -/
theorem writeAll_of_refused (hrefused : station.handle.writeRefusal? bytes = some refusal)
    (limit : Nat) :
    (writeAll transport bytes limit).outcome station =
      (unwritten bytes limit refusal, station) := by
  change (writeRest transport bytes.length limit (transport.now station.world + limit)
    (bytes.length + limit + transport.patience station.world + 1) bytes).outcome station = _
  rw [unwritten]
  by_cases hempty : bytes = []
  · rw [if_pos hempty, hempty, writeRest_of_nil]
  · rw [if_neg hempty]
    by_cases hlimit : limit = 0
    · rw [if_pos hlimit, writeRest_of_late hempty (by omega), hlimit, Nat.sub_self]
    · rw [if_neg hlimit, writeRest_of_early hempty (by omega), outcome_bind,
        (write_refused transport hrefused _).outcome_eq]

end Handle

open Handle

namespace FramedLink

/-- The body of a message is sent by writing all of its frame. -/
theorem sendPdu_of_frame {config : LinkConfig} {pdu frame : List UInt8}
    (hframe : Frame.encode config.address pdu = .ok frame) :
    sendPdu transport config pdu = writeAll transport frame config.writeTimeout := by
  rw [sendPdu, hframe]
  rfl

end FramedLink

namespace Device

variable {request : Request} {attached : Attached σ}

theorem send_of_refused (hidle : attached.device.outstanding = false)
    (hframe : request.frame attached.device.config.address = .ok bytes)
    (hrefused : attached.station.handle.writeRefusal? bytes = some refusal) :
    (send transport request).outcome attached =
      (unwritten bytes attached.device.config.writeTimeout refusal, attached) := by
  obtain ⟨error, herror⟩ := exists_error_of_unwritten (Request.ne_nil_of_frame hframe)
    attached.device.config.writeTimeout refusal
  rw [outcome_send_of_frame _ hidle hframe, writeAll_of_refused hrefused, herror]

end Device

open FramedLink Device

/-- A write is refused by the rules whatever its mode, and nothing reaches the
transport.  The writing of all of a buffer is refused in the same way if there is
something to write and time to do it; without anything to write it succeeds, and
without time it is given up.  A message body or a request is refused as its frame
is, so it only ever lacks the time. -/
theorem usage_rules_of_writing (transport : Transport σ)
    (hrefused : station.handle.writeRefusal? bytes = some refusal) :
    (∀ mode, (write transport bytes mode).outcome station = (.error refusal, station)) ∧
      (∀ limit,
        (writeAll transport bytes limit).outcome station =
          (unwritten bytes limit refusal, station) ∧
        (unwritten bytes limit refusal = .error refusal ↔ bytes ≠ [] ∧ limit ≠ 0)) ∧
      (∀ config pdu, Frame.encode config.address pdu = .ok bytes →
        (sendPdu transport config pdu).outcome station =
          (unwritten bytes config.writeTimeout refusal, station)) ∧
      ∀ request device, device.outstanding = false →
        request.frame device.config.address = .ok bytes →
        (send transport request).outcome { device, station } =
          (unwritten bytes device.config.writeTimeout refusal, { device, station }) := by
  refine ⟨fun mode => (write_refused transport hrefused mode).outcome_eq, ?_, ?_, ?_⟩
  · intro limit
    exact ⟨writeAll_of_refused hrefused limit, unwritten_eq_refusal_iff hrefused limit⟩
  · intro config pdu hframe
    rw [sendPdu_of_frame hframe, writeAll_of_refused hrefused]
  · intro request device hidle hframe
    exact send_of_refused hidle hframe hrefused

namespace Handle

def unopened : Station Scripted.State where
  handle := { key := 0, connection := .serial "COM1" }
  world := {}

/-- One register, asked for on a link that was never opened. -/
theorem usage_rules_of_writing_unopened :
    let frame : List UInt8 := [1, 3, 0, 0, 0, 1, 132, 10]
    let hurried : LinkConfig := { writeTimeout := 0 }
    unopened.handle.writeRefusal? frame = some (.notOpen "write") ∧
      (Request.readRegisters 0 1).frame 1 = .ok frame ∧
      (write Scripted.transport frame .nonBlocking).outcome unopened =
        (.error (.notOpen "write"), unopened) ∧
      (writeAll Scripted.transport frame 100).outcome unopened =
        (.error (.notOpen "write"), unopened) ∧
      (send Scripted.transport (.readRegisters 0 1)).outcome ⟨{ config := {} }, unopened⟩ =
        (.error (.notOpen "write"), ⟨{ config := {} }, unopened⟩) ∧
      (send Scripted.transport (.readRegisters 0 1)).outcome ⟨{ config := hurried }, unopened⟩ =
        (.error (.timeout (.writing 8 0) 0), ⟨{ config := hurried }, unopened⟩) := by
  intro frame hurried
  have hrefused : unopened.handle.writeRefusal? frame = some (.notOpen "write") := rfl
  have hframe : (Request.readRegisters 0 1).frame 1 = .ok frame := by decide +kernel
  obtain ⟨hwrite, hwriteAll, _, hsend⟩ := usage_rules_of_writing Scripted.transport hrefused
  exact ⟨hrefused, hframe, hwrite .nonBlocking, (hwriteAll 100).1,
    hsend (.readRegisters 0 1) { config := {} } rfl hframe,
    hsend (.readRegisters 0 1) { config := hurried } rfl hframe⟩

/-- Writing nothing succeeds even on a link that was never opened. -/
theorem nothing_is_written_unopened :
    ¬∀ (station : Station Scripted.State) (bytes : List UInt8) (limit : Nat)
      (refusal : LinkError), station.handle.writeRefusal? bytes = some refusal →
        (writeAll Scripted.transport bytes limit).outcome station = (.error refusal, station) := by
  intro hrules
  have hrefused := hrules unopened [] 100 (.notOpen "write") rfl
  have hdone : (writeAll Scripted.transport [] 100).outcome unopened = (.ok (), unopened) := rfl
  rw [hdone] at hrefused
  cases hrefused

end Handle

end InstrumentLink
