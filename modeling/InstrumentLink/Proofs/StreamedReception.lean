import InstrumentLink.Proofs.Blame
import InstrumentLink.Proofs.ReplyReading
import InstrumentLink.Proofs.ScriptedStream
import InstrumentLink.Proofs.Sending

/-!
# Reception from a scripted link

The stream of a scripted link is known when the reception of a reply begins, so
the reception can be compared with decoding the front of that stream at one go.
The two agree for every fragmentation and every schedule of arrivals, except
that a reception also ends when the link falls silent for too long.
-/

namespace InstrumentLink

namespace Device

def Answered : Except LinkError Reply → Prop
  | .ok _ => True
  | .error error => error.exceptionCode?.isSome = true

def TimedOut : Except LinkError Reply → Prop
  | .ok _ => False
  | .error error => error.isTimeout = true

end Device

namespace Request

variable {request : Request} {address : UInt8}

/-- Decoding blames the frame or the device, never the link. -/
theorem blames_decodeFront (request : Request) (address : UInt8) (stream : List UInt8) :
    Blames LinkError.Spoken (request.decodeFront address stream) := by
  rw [decodeFront]
  split
  · exact (blames_error _).mpr rfl
  · apply ((Frame.blames_decode _).mono fun _ h => h.1).bind
    intro frame
    exact request.blames_decodeReply frame.2

theorem not_timedOut_decodeFront (stream : List UInt8) :
    ¬Device.TimedOut (request.decodeFront address stream) := by
  have hspoken := request.blames_decodeFront address stream
  cases hresult : request.decodeFront address stream with
  | ok reply => exact id
  | error error =>
      have herror : error.isTimeout = false := hspoken error hresult
      simp [Device.TimedOut, herror]

/-- Only a frame from the device's own address answers. -/
theorem decisive_of_answered {stream : List UInt8}
    (hanswered : Device.Answered (request.decodeFront address stream)) :
    request.decisive address stream = request.frameLength stream := by
  rw [decodeFront] at hanswered
  split at hanswered
  · cases hanswered
  · next hown => rw [decisive, if_neg hown]

end Request

namespace Scripted

open Device State

/-- What a reception made of the stream that was to come. -/
structure Received (request : Request) (address : UInt8) (window : Nat) (before : State)
    (result : Except LinkError Reply) (after : State) : Prop where
  /-- It decodes the front of the stream, unless the link falls silent. -/
  decoded : TimedOut result ∨
    request.decisive address (before.stream window) ≤ (before.stream window).length ∧
      result = request.decodeFront address (before.stream window)
  /-- With everything there it is only silence that the stream ends too early. -/
  timedOut_iff : before.Queued window →
    (TimedOut result ↔
      (before.stream window).length < request.decisive address (before.stream window))
  /-- An answer takes its frame and leaves the rest in order. -/
  answered : Answered result →
    request.frameLength (before.stream window) ≤ (before.stream window).length ∧
      after.stream window =
        (before.stream window).drop (request.frameLength (before.stream window))
  queued : Answered result → before.Queued window → after.Queued window
  /-- Otherwise nothing is left to read. -/
  discarded : ¬Answered result → after.readable = []

variable {request : Request} {address : UInt8} {window : Nat}
variable {before between after : State} {taken : List UInt8}

/-- Bytes that decide about the reply are the front of the stream. -/
theorem received_of_decided {result : Except LinkError Reply}
    (htook : TookFront window before taken between) (hdecided : Decided request address taken result)
    (hanswered : Answered result → after = between)
    (hdiscarded : ¬Answered result → after.readable = []) :
    Received request address window before result after := by
  obtain ⟨hlength, hfront⟩ := hdecided
  have hstable := Request.decodeFront_append hlength.ge (between.stream window)
  rw [← htook.stream] at hstable
  obtain ⟨hdecode, hdecisive⟩ := hstable
  have hresult : request.decodeFront address (before.stream window) = result :=
    hdecode.trans hfront
  have hneeded : request.decisive address (before.stream window) = taken.length :=
    hdecisive.trans hlength.symm
  have henough : taken.length ≤ (before.stream window).length := by
    rw [htook.stream, List.length_append]
    exact Nat.le_add_right _ _
  have hspoken : ¬TimedOut result := by
    rw [← hresult]
    exact Request.not_timedOut_decodeFront _
  have hframe : Answered result → request.frameLength (before.stream window) = taken.length := by
    intro h
    rw [← hresult] at h
    rw [← Request.decisive_of_answered h, hneeded]
  exact {
    decoded := .inr ⟨hneeded.trans_le henough, hresult.symm⟩
    timedOut_iff := by
      intro _
      rw [hneeded]
      exact ⟨fun h => absurd h hspoken, fun h => absurd henough (Nat.not_le_of_lt h)⟩
    answered := by
      intro h
      rw [hframe h, hanswered h]
      refine ⟨henough, ?_⟩
      rw [htook.stream, List.drop_left]
    queued := by
      intro h hqueued
      rw [hanswered h]
      exact htook.queued hqueued
    discarded := hdiscarded }

/-- Silence before the deciding bytes came is a timeout. -/
theorem received_of_silence {error : LinkError}
    (htook : TookFront window before taken between) (hquiet : between.readable = [])
    (hshort : taken.length < request.decisive address taken)
    (htimeout : error.isTimeout = true) (hdiscarded : after.readable = []) :
    Received request address window before (.error error) after := by
  have hunanswered : ¬Answered (.error error : Except LinkError Reply) := by
    cases error with
    | timeout _ _ => simp [Answered, LinkError.exceptionCode?]
    | _ => cases htimeout
  exact {
    decoded := .inl htimeout
    timedOut_iff := by
      intro hqueued
      have hnothing : between.stream window = [] := (htook.queued hqueued).symm.trans hquiet
      rw [htook.stream, hnothing, List.append_nil]
      exact ⟨fun _ => hshort, fun _ => htimeout⟩
    answered := fun h => absurd h hunanswered
    queued := fun h => absurd h hunanswered
    discarded := fun _ => hdiscarded }

/-- On an open handle a reading is broken off by silence only. -/
theorem silent_of_interrupted {timeout : Nat} {station : Station State} {error : LinkError}
    (hopen : station.handle.isOpen = true)
    (hinterrupted : FramedLink.Interrupted (trail timeout) before taken station error) :
    error.isTimeout = true ∧ ∃ between,
      TookFront (FramedLink.window timeout) before taken between ∧ between.readable = [] := by
  cases hinterrupted with
  | stalled hpatient _ => exact absurd (patient timeout) hpatient
  | failed hroom _ hfailure =>
      cases hfailure with
      | closed hclosed => exact absurd hclosed ((Handle.isOpen_iff _).mp hopen)
      | noRoom hnone => omega
      | transport hread => exact (read_ne_error hread).elim
  | silent hroom htook hread =>
      exact ⟨rfl, _, htook, readable_eq_nil_of_silence hread hroom⟩

theorem readable_of_flush (hflush : transport.flush before = .ok ⟨⟩ after) :
    after.readable = [] := by
  cases hflush
  have hlater : ∀ arrival ∈ before.settle.arrivals, before.clock < arrival.time :=
    later_settle before
  rw [readable, settle_of_later]
  exact hlater

/-- Discarding through an open handle leaves nothing to read. -/
theorem readable_of_handle_flush {station : Station State}
    (hopen : station.handle.isOpen = true) :
    ((Handle.flush transport).outcome station).2.world.readable = [] := by
  refine (LinkM.leads_iff_world _ _ fun after : Station State => after.world.readable = []).mp ?_
  apply (Handle.flush_leads transport station).mono
  · intro _ after hdone
    obtain ⟨world, hflush, rfl⟩ := hdone
    exact readable_of_flush hflush
  · intro error after hfailed
    cases hfailed with
    | closed hclosed => exact absurd hclosed ((Handle.isOpen_iff _).mp hopen)
    | transport hflush => cases hflush

/-- A reception through an open handle decodes the front of the stream. -/
theorem received_of_receive {attached : Attached State} (hvalid : request.validate = .ok ())
    (hopen : attached.station.handle.isOpen = true) :
    Received request attached.device.config.address
      (FramedLink.window attached.device.config.readTimeout) attached.station.world
      ((receive transport request).outcome attached).1
      ((receive transport request).outcome attached).2.station.world := by
  refine (LinkM.leads_iff_outcome _ _ fun result (after : Attached State) =>
    Received request attached.device.config.address
      (FramedLink.window attached.device.config.readTimeout) attached.station.world result
      after.station.world).mp ?_
  apply (receive_leads hvalid attached (trail _)).mono
  · intro reply after hdone
    obtain ⟨_, taken, htook, hdecided⟩ := hdone
    exact received_of_decided htook hdecided (fun _ => rfl) (fun h => absurd trivial h)
  · intro error after hfailed
    obtain ⟨unread, ⟨hhandle, taken, hend⟩, hafter⟩ := hfailed
    have hopenUnread : unread.handle.isOpen = true := by rw [hhandle, hopen]
    have hanswered : error.exceptionCode?.isSome = true →
        after.station.world = unread.world := by
      intro h
      rw [hafter, if_pos h]
    have hdiscarded : ¬error.exceptionCode?.isSome = true → after.station.world.readable = [] := by
      intro h
      rw [hafter, if_neg h]
      exact readable_of_handle_flush hopenUnread
    rcases hend with ⟨htook, hdecided⟩ | ⟨hshort, hinterrupted⟩
    · exact received_of_decided htook hdecided hanswered hdiscarded
    · obtain ⟨htimeout, between, htook, hquiet⟩ := silent_of_interrupted hopenUnread hinterrupted
      refine received_of_silence htook hquiet hshort htimeout (hdiscarded ?_)
      cases error <;> simp_all [LinkError.isTimeout, LinkError.exceptionCode?]

/-- The reply to a request that was sent is the one at the front of the stream,
however it is fragmented and whenever its parts arrive. -/
theorem reception_decodes_stream {request : Request} {sender : Attached State}
    (hsent : ((send transport request).outcome sender).1 = .ok ())
    (attached : Attached State) (hopen : attached.station.handle.isOpen = true) :
    Received request attached.device.config.address
      (FramedLink.window attached.device.config.readTimeout) attached.station.world
      ((receive transport request).outcome attached).1
      ((receive transport request).outcome attached).2.station.world :=
  received_of_receive (validate_of_sent hsent) hopen

def fragmented : State :=
  { chunk := some 1
    arrivals := [⟨25, [0, 42, 57, 155, 7, 7]⟩, ⟨3, [1, 3, 2]⟩] }

theorem reception_decodes_stream_fragmented :
    ((send transport (.readRegisters 0 1)).outcome (.opened {} {})).1 = .ok () ∧
      (Attached.opened {} fragmented).station.handle.isOpen = true ∧
      ((receive transport (.readRegisters 0 1)).outcome (.opened {} fragmented)).1 =
        .ok (.registers [42]) ∧
      fragmented.stream 10 = [1, 3, 2, 0, 42, 57, 155, 7, 7] ∧
      Received (.readRegisters 0 1) 1 10 fragmented
        ((receive transport (.readRegisters 0 1)).outcome (.opened {} fragmented)).1
        ((receive transport (.readRegisters 0 1)).outcome (.opened {} fragmented)).2.station.world := by
  have hsent : ((send transport (.readRegisters 0 1)).outcome (.opened {} {})).1 = .ok () := by
    decide +kernel
  have hreply : ((receive transport (.readRegisters 0 1)).outcome (.opened {} fragmented)).1 =
      .ok (.registers [42]) := by
    decide +kernel
  exact ⟨hsent, rfl, hreply, by decide +kernel,
    reception_decodes_stream hsent (.opened {} fragmented) rfl⟩

end Scripted

end InstrumentLink
