import InstrumentLink.Message.Request

/-!
# What a valid request implies

Encoding refuses exactly the requests that fail validation, and the number of
items of a valid request bounds the length of its reply.
-/

namespace InstrumentLink.Request

theorem validate_eq_ok_iff (request : Request) :
    request.validate = .ok () ↔
      1 ≤ request.items ∧ request.items ≤ request.function.maxQuantity := by
  rw [validate]
  split <;> simp_all

theorem validate_of_encode {request : Request} {pdu : Pdu}
    (hencode : request.encode = .ok pdu) : request.validate = .ok () := by
  cases hvalid : request.validate with
  | ok value => rfl
  | error error => simp [encode, hvalid, bind, Except.bind] at hencode

/-- The items of a valid request are as many as its quantity says. -/
theorem quantity_toNat {request : Request} (hvalid : request.validate = .ok ()) :
    request.quantity.toNat = request.items := by
  have hitems := (validate_eq_ok_iff request).mp hvalid
  have hmax : request.function.maxQuantity ≤ 2000 := by
    cases request <;> simp [function, FunctionCode.maxQuantity]
  simp only [quantity, UInt16.toNat_ofNat']
  omega

/-- A success reply has room for a function and an answer, and fits a frame. -/
theorem successLength_bounds {request : Request} (hvalid : request.validate = .ok ()) :
    3 ≤ request.successLength ∧ request.successLength ≤ maxPduSize := by
  have hitems := (validate_eq_ok_iff request).mp hvalid
  have hquantity := quantity_toNat hvalid
  cases request with
  | readCoils address count =>
      simp only [function, FunctionCode.maxQuantity] at hitems
      simp only [successLength, function, FunctionCode.replyForm, ItemWidth.dataLength,
        hquantity, maxPduSize]
      omega
  | readRegisters address count =>
      simp only [function, FunctionCode.maxQuantity] at hitems
      simp only [successLength, function, FunctionCode.replyForm, ItemWidth.dataLength,
        hquantity, maxPduSize]
      omega
  | writeCoil address value =>
      simp [successLength, function, FunctionCode.replyForm, headerLength, maxPduSize]
  | writeRegisters address values =>
      simp [successLength, function, FunctionCode.replyForm, headerLength, maxPduSize]

theorem replyLength_bounds {request : Request} (hvalid : request.validate = .ok ())
    (first : UInt8) :
    2 ≤ request.replyLength first ∧ request.replyLength first ≤ maxPduSize := by
  have hlength := successLength_bounds hvalid
  rw [replyLength]
  split
  · decide
  · omega

end InstrumentLink.Request
