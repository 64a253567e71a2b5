import InstrumentLink.Proofs.BodyRoom
import InstrumentLink.Proofs.RequestBounds

/-!
# The message body of a request

A message body is built by appends that may be refused for lack of room.  For
a valid request none of them is, and the body is laid out as the function table
says.
-/

namespace InstrumentLink

theorem Pdu.length_flatMap_wordBytes (words : List UInt16) :
    (words.flatMap wordBytes).length = 2 * words.length := by
  induction words with
  | nil => rfl
  | cons word words ih =>
      rw [List.flatMap_cons, List.length_append, ih, List.length_cons, wordBytes,
        List.length_cons, List.length_singleton]
      omega

namespace Request

open Pdu

theorem appends_pushWords (words : List UInt16) :
    Appends (pushWords words) (words.flatMap wordBytes) := by
  induction words with
  | nil => exact appends_nothing
  | cons word words ih =>
      rw [pushWords, List.flatMap_cons]
      exact (appends_extend _).andThen ih

theorem length_layout (request : Request) :
    request.layout.length =
      match request with
      | writeRegisters _ values => 6 + 2 * values.length
      | _ => 5 := by
  cases request with
  | writeRegisters address values =>
      simp only [layout, wordBytes, List.length_cons, List.length_append, List.length_nil,
        length_flatMap_wordBytes]
      omega
  | _ => rfl

theorem length_layout_le {request : Request} (hvalid : request.validate = .ok ()) :
    request.layout.length ≤ maxPduSize := by
  have hitems := (validate_eq_ok_iff request).mp hvalid
  rw [length_layout]
  cases request with
  | writeRegisters address values =>
      simp only [items, function, FunctionCode.maxQuantity] at hitems
      simp only [maxPduSize]
      omega
  | _ => exact Nat.le_of_ble_eq_true rfl

theorem appends_pushBody {request : Request} (hvalid : request.validate = .ok ()) :
    Appends request.pushBody request.layout := by
  have hheader : ∀ {rest : LinkM Pdu Unit} {more : List UInt8}, Appends rest more →
      Appends
        (do
          push request.function.toByte
          pushWord request.address
          rest)
        (request.function.toByte :: wordBytes request.address ++ more) := by
    intro rest more hrest
    exact (appends_push _).andThen ((appends_extend _).andThen hrest)
  cases request with
  | readCoils address count => exact hheader (appends_extend _)
  | readRegisters address count => exact hheader (appends_extend _)
  | writeCoil address value => exact hheader (appends_extend _)
  | writeRegisters address values =>
      have hquantity : (writeRegisters address values).quantity = UInt16.ofNat values.length := by
        rw [← UInt16.ofNat_toNat (x := quantity _), quantity_toNat hvalid, items]
      apply hheader
      rw [hquantity]
      exact (appends_extend _).andThen ((appends_push _).andThen (appends_pushWords values))

/-- A valid request is encoded as the function table lays it out. -/
theorem exists_encode {request : Request} (hvalid : request.validate = .ok ()) :
    ∃ pdu, request.encode = .ok pdu ∧ pdu.bytes = request.layout := by
  obtain ⟨pdu, hbuild, _, hbytes⟩ :=
    exists_build (appends_pushBody hvalid) (length_layout_le hvalid)
  exact ⟨pdu, by rw [encode, hvalid, ← hbuild]; rfl, hbytes⟩

end Request

end InstrumentLink
