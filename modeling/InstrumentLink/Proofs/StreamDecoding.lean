import InstrumentLink.Device
import InstrumentLink.Proofs.Framing
import InstrumentLink.Proofs.Reading
import InstrumentLink.Proofs.RequestBounds
import Mathlib.Data.List.Basic

/-!
# Replies at the front of a stream

A reply can be decoded at one go from the bytes that a link will deliver: the
first of them names the sender, the second fixes the length of the frame, and
the frame is checked and validated as a whole.  Reading it part by part, from
reads of any size, comes to the same.
-/

namespace InstrumentLink

namespace Request

def frameLength (request : Request) (stream : List UInt8) : Nat :=
  request.replyLength ((stream.drop 1).headD 0) + Frame.overhead

/-- How many bytes of a stream decide about the reply at its front: a foreign
address is enough, and otherwise it takes the whole frame. -/
def decisive (request : Request) (address : UInt8) (stream : List UInt8) : Nat :=
  if stream.headD address ≠ address then 1 else request.frameLength stream

def decodeFront (request : Request) (address : UInt8) (stream : List UInt8) :
    Except LinkError Reply :=
  if stream.headD address ≠ address then
    .error (.protocol (.wrongAddress (stream.headD address) address))
  else do
    let (_, pdu) ← Frame.decode (stream.take (request.frameLength stream))
    request.decodeReply pdu

variable {request : Request} {address : UInt8}

theorem decodeFront_of_foreign {first : UInt8} {stream : List UInt8}
    (hforeign : first ≠ address) :
    request.decodeFront address (first :: stream) =
      .error (.protocol (.wrongAddress first address)) := by
  simp [decodeFront, hforeign]

theorem decisive_of_foreign {first : UInt8} {stream : List UInt8}
    (hforeign : first ≠ address) : request.decisive address (first :: stream) = 1 := by
  simp [decisive, hforeign]

/-- A frame of the right length is decoded by checking its trailer and then
validating the message body. -/
theorem decodeFront_frame (address low high : UInt8) {first : UInt8} {rest : List UInt8}
    (hlength : (first :: rest).length = request.replyLength first) :
    request.decodeFront address (address :: first :: rest ++ [low, high]) = (do
      Frame.verify (address :: first :: rest) low high
      request.decodeReply (first :: rest)) := by
  have hframe : request.frameLength (address :: first :: rest ++ [low, high]) =
      (address :: first :: rest ++ [low, high]).length := by
    simp only [frameLength, Frame.overhead, List.cons_append, List.drop_succ_cons,
      List.drop_zero, List.headD_cons, ← hlength]
    simp
  simp only [decodeFront, hframe, List.take_length, Frame.decode_append_trailer]
  cases Frame.verify (address :: first :: rest) low high <;>
    simp [bind, Except.bind, Except.map]

theorem decisive_frame (address low high : UInt8) {first : UInt8} {rest : List UInt8}
    (hlength : (first :: rest).length = request.replyLength first) :
    request.decisive address (address :: first :: rest ++ [low, high]) =
      (address :: first :: rest ++ [low, high]).length := by
  simp only [decisive, frameLength, Frame.overhead, List.cons_append, List.headD_cons,
    List.drop_succ_cons, List.drop_zero, ← hlength]
  simp

/-- Bytes behind the deciding ones do not matter. -/
theorem decodeFront_append {front : List UInt8}
    (hfront : request.decisive address front ≤ front.length) (later : List UInt8) :
    request.decodeFront address (front ++ later) = request.decodeFront address front ∧
      request.decisive address (front ++ later) = request.decisive address front := by
  match front with
  | [] => simp [decisive, frameLength, Frame.overhead] at hfront
  | [first] =>
      have hforeign : first ≠ address := by
        intro hown
        subst hown
        simp [decisive, frameLength, Frame.overhead] at hfront
      simp [decodeFront, decisive, hforeign]
  | first :: second :: rest =>
      have hhead : (first :: second :: rest ++ later).headD address =
          (first :: second :: rest).headD address := rfl
      have hframe : request.frameLength (first :: second :: rest ++ later) =
          request.frameLength (first :: second :: rest) := rfl
      rw [decodeFront, decodeFront, decisive, decisive, hhead, hframe]
      constructor
      · split
        · rfl
        · next hown =>
            rw [decisive, if_neg hown] at hfront
            rw [List.take_append_of_le_length hfront]
      · rfl

/-- What decides nothing yet decides nothing as the front of a longer stream. -/
theorem lt_decisive_append {front : List UInt8}
    (hfront : front.length < request.decisive address front) (later : List UInt8) :
    front.length < request.decisive address (front ++ later) := by
  match front with
  | [] =>
      rw [decisive]
      split <;> simp [frameLength, Frame.overhead]
  | [first] =>
      rw [decisive] at hfront ⊢
      split at hfront
      · exact absurd hfront (Nat.lt_irrefl 1)
      · next hown =>
          rw [if_neg (by exact hown)]
          simp only [frameLength, Frame.overhead, List.length_singleton]
          omega
  | first :: second :: rest => exact hfront

/-- A frame that is still incomplete decides nothing. -/
theorem lt_decisive {body : List UInt8}
    (hshort : body.length < request.replyLength (body.headD 0) + 2) :
    (address :: body).length < request.decisive address (address :: body) := by
  simp only [decisive, frameLength, Frame.overhead, List.headD_cons, List.drop_succ_cons,
    List.drop_zero, List.length_cons, ne_eq, not_true_eq_false, if_false]
  omega

end Request

namespace FramedLink

open LinkM

variable {σ : Type} {transport : Transport σ} {config : LinkConfig}

theorem readAddress_leads (trail : transport.Trail (window config.readTimeout))
    (station : Station σ) :
    Leads (readAddress transport config) station
      (fun _ after => after.handle = station.handle ∧
        trail.Took station.world [config.address] after.world)
      (fun error after => after.handle = station.handle ∧
        ((∃ first, first ≠ config.address ∧ trail.Took station.world [first] after.world ∧
            error = .protocol (.wrongAddress first config.address)) ∨
          Interrupted trail station.world [] after error)) := by
  simp only [readAddress, leads_bind]
  apply (readExact_leads trail "reply address" 1 station).mono
  · intro bytes after hdone
    obtain ⟨hhandle, hlength, htook⟩ := hdone
    obtain ⟨first, rfl⟩ := List.length_eq_one_iff.mp hlength
    rw [List.headD_cons]
    split
    · next hforeign => exact ⟨hhandle, .inl ⟨first, hforeign, htook, rfl⟩⟩
    · next hsame =>
        obtain rfl : first = config.address := by simpa using hsame
        exact ⟨hhandle, htook⟩
  · intro error after hfailed
    obtain ⟨hhandle, taken, hlength, hinterrupted⟩ := hfailed
    obtain rfl : taken = [] := by simpa using hlength
    exact ⟨hhandle, .inr hinterrupted⟩

theorem readChecksum_leads (trail : transport.Trail (window config.readTimeout))
    (pdu : List UInt8) (station : Station σ) :
    Leads (readChecksum transport config pdu) station
      (fun _ after => after.handle = station.handle ∧ ∃ low high,
        trail.Took station.world [low, high] after.world ∧
          Frame.verify (config.address :: pdu) low high = .ok ())
      (fun error after => after.handle = station.handle ∧
        ((∃ low high, trail.Took station.world [low, high] after.world ∧
            Frame.verify (config.address :: pdu) low high = .error error) ∨
          ∃ taken, taken.length < 2 ∧ Interrupted trail station.world taken after error)) := by
  simp only [readChecksum, leads_bind]
  apply (readExact_leads trail "reply CRC" 2 station).mono
  · intro bytes after hdone
    obtain ⟨hhandle, hlength, htook⟩ := hdone
    obtain ⟨low, high, rfl⟩ := List.length_eq_two.mp hlength
    apply (leads_ofExcept _ _ _ _).mpr
    constructor
    · intro _ hverify
      exact ⟨hhandle, low, high, htook, hverify⟩
    · intro error hverify
      exact ⟨hhandle, .inl ⟨low, high, htook, hverify⟩⟩
  · intro error after hfailed
    obtain ⟨hhandle, taken, hlength, hinterrupted⟩ := hfailed
    exact ⟨hhandle, .inr ⟨taken, hlength, hinterrupted⟩⟩

end FramedLink

end InstrumentLink
