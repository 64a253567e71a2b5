import InstrumentLink.Proofs.ReplyDecoding

/-!
# The expected and the accepted length of a reply

How much of a reply is read is worked out from the request and the first byte;
whether a reply is accepted is worked out from all of its bytes.  Both follow the
function table: a reply that is as long as expected is never refused for its
length, and only such replies are accepted.
-/

namespace InstrumentLink

open Pdu

/-- The complaint is about how many bytes came. -/
def ProtocolCause.OfLength : ProtocolCause → Prop
  | emptyReply | exceptionWithoutCode | noByteCount | dataLength _ _ => True
  | _ => False

namespace Request

/-- What a reply is refused for by what it says. -/
inductive Objection (request : Request) : List UInt8 → ProtocolCause → Prop
  | function {first : UInt8} {body : List UInt8} (hsuccess : ¬isExceptionByte first = true)
      (hother : first ≠ request.function.toByte) :
      Objection request (first :: body) (.wrongFunction request.function.toByte first)
  | declared {width : ItemWidth} {declared : UInt8} {data : List UInt8}
      (hform : request.function.replyForm = .byteCounted width)
      (hother : declared.toNat ≠ width.dataLength request.quantity) :
      Objection request (request.function.toByte :: declared :: data)
        (.byteCount declared.toNat (width.dataLength request.quantity))
  | echo {bytes : List UInt8} {pdu : Pdu} (hform : request.function.replyForm = .echo)
      (hencode : request.encode = .ok pdu) (hother : bytes ≠ pdu.bytes) :
      Objection request bytes (.notAnEcho bytes)
  | header {bytes : List UInt8} {pdu : Pdu} (hform : request.function.replyForm = .headerEcho)
      (hencode : request.encode = .ok pdu) (hother : bytes ≠ pdu.bytes.take headerLength) :
      Objection request bytes (.headerMismatch bytes)

variable {request : Request} {bytes body : List UInt8} {first : UInt8} {cause : ProtocolCause}
variable {width : ItemWidth} {reply : Reply}

theorem Objection.not_ofLength (hobjection : Objection request bytes cause) : ¬cause.OfLength := by
  cases hobjection with
  | _ => exact id

theorem replyLength_of_exception (hexception : isExceptionByte first = true) :
    request.replyLength first = 2 := if_pos hexception

theorem replyLength_of_success (hsuccess : ¬isExceptionByte first = true) :
    request.replyLength first = request.successLength := if_neg hsuccess

theorem replyLength_function (request : Request) :
    request.replyLength request.function.toByte = request.successLength :=
  replyLength_of_success request.not_isExceptionByte_function

/-- Behind the function there is a byte count and as much data as the items take. -/
theorem successLength_of_counted (hform : request.function.replyForm = .byteCounted width) :
    request.successLength = 2 + width.dataLength request.quantity := by
  rw [successLength, hform]

/-- Data of the expected length is refused for the declared length alone. -/
theorem objection_of_decodeCounted (hform : request.function.replyForm = .byteCounted width)
    (hlength : body.length = 1 + width.dataLength request.quantity)
    (hrefused : Reply.decodeCounted request width body = .error (.protocol cause)) :
    Objection request (request.function.toByte :: body) cause := by
  cases body with
  | nil =>
      rw [List.length_nil] at hlength
      omega
  | cons declared data =>
      have hdata : data.length = width.dataLength request.quantity := by
        rw [List.length_cons] at hlength
        omega
      by_cases hdeclared : declared.toNat = width.dataLength request.quantity
      · simp [Reply.decodeCounted, hdeclared, hdata] at hrefused
      · simp only [Reply.decodeCounted, if_pos hdeclared] at hrefused
        cases hrefused
        exact .declared hform hdeclared

theorem objection_of_decodeEcho {address : UInt16} {value : Bool}
    (hrefused : Reply.decodeEcho (writeCoil address value) bytes = .error (.protocol cause)) :
    Objection (writeCoil address value) bytes cause := by
  have hvalid : (writeCoil address value).validate = .ok () := rfl
  obtain ⟨pdu, hencode, _⟩ := exists_encode hvalid
  rw [Reply.decodeEcho, hencode] at hrefused
  by_cases hsame : bytes = pdu.bytes
  · rw [hsame] at hrefused
    simp [bind, Except.bind] at hrefused
  · simp only [bind, Except.bind, ne_eq, hsame, not_false_eq_true, if_true] at hrefused
    cases hrefused
    exact .echo rfl hencode hsame

theorem objection_of_decodeHeaderEcho (hvalid : request.validate = .ok ())
    (hform : request.function.replyForm = .headerEcho)
    (hrefused : Reply.decodeHeaderEcho request bytes = .error (.protocol cause)) :
    Objection request bytes cause := by
  obtain ⟨pdu, hencode, _⟩ := exists_encode hvalid
  rw [Reply.decodeHeaderEcho, hencode] at hrefused
  by_cases hsame : bytes = pdu.bytes.take headerLength
  · rw [hsame] at hrefused
    simp [bind, Except.bind] at hrefused
  · simp only [bind, Except.bind, ne_eq, hsame, not_false_eq_true, if_true] at hrefused
    cases hrefused
    exact .header hform hencode hsame

/-- A reply of the expected length is refused for what it says. -/
theorem objection_of_decodeReply (hvalid : request.validate = .ok ())
    (hlength : (first :: body).length = request.replyLength first)
    (hrefused : request.decodeReply (first :: body) = .error (.protocol cause)) :
    Objection request (first :: body) cause := by
  rw [List.length_cons] at hlength
  by_cases hexception : isExceptionByte first = true
  · rw [replyLength_of_exception hexception] at hlength
    cases body with
    | nil => cases hlength
    | cons code rest =>
        simp only [decodeReply, if_pos hexception] at hrefused
        cases hrefused
  · by_cases hfunction : first = request.function.toByte
    · rw [replyLength_of_success hexception] at hlength
      rw [hfunction, decodeReply_function] at hrefused
      rw [hfunction]
      have hcounted : ∀ width, request.function.replyForm = .byteCounted width →
          body.length = 1 + width.dataLength request.quantity := by
        intro width hform
        rw [successLength_of_counted hform] at hlength
        omega
      cases request with
      | readCoils address count =>
          exact objection_of_decodeCounted rfl (hcounted .bit rfl) hrefused
      | readRegisters address count =>
          exact objection_of_decodeCounted rfl (hcounted .word rfl) hrefused
      | writeCoil address value => exact objection_of_decodeEcho hrefused
      | writeRegisters address values => exact objection_of_decodeHeaderEcho hvalid rfl hrefused
    · simp only [decodeReply, if_neg hexception, ne_eq, hfunction, not_false_eq_true,
        if_true] at hrefused
      cases hrefused
      exact .function hexception hfunction

theorem length_of_decodeCounted (hform : request.function.replyForm = .byteCounted width)
    (haccepted : Reply.decodeCounted request width body = .ok reply) :
    (request.function.toByte :: body).length = request.successLength := by
  obtain ⟨declared, data, rfl, _, hdata, _⟩ := Reply.decodeCounted_eq_ok_iff.mp haccepted
  rw [successLength_of_counted hform, List.length_cons, List.length_cons, hdata]
  omega

/-- Only replies of the expected length are accepted. -/
theorem length_of_decodeReply (hvalid : request.validate = .ok ())
    (haccepted : request.decodeReply (first :: body) = .ok reply) :
    (first :: body).length = request.replyLength first := by
  obtain ⟨rest, hbytes⟩ := function_of_decodeReply haccepted
  obtain ⟨rfl, rfl⟩ := List.cons.inj hbytes
  rw [replyLength_function]
  rw [decodeReply_function] at haccepted
  obtain ⟨pdu, hencode, hbytes⟩ := exists_encode hvalid
  cases request with
  | readCoils address count => exact length_of_decodeCounted rfl haccepted
  | readRegisters address count => exact length_of_decodeCounted rfl haccepted
  | writeCoil address value =>
      rw [((Reply.decodeEcho_eq_ok_iff hencode).mp haccepted).1, hbytes]
      rfl
  | writeRegisters address values =>
      rw [((Reply.decodeHeaderEcho_eq_ok_iff hencode).mp haccepted).1, hbytes]
      exact List.length_take_of_le (Nat.le_add_left 5 _)

/-- For a request that can be asked, the expected length of a reply leaves room for
its function and an answer and fits a message body.  A reply of that length is
accepted, reports an exception of the device, or is refused for what it says: the
function, the declared number of bytes, or the echo.  And no reply of another
length is accepted. -/
theorem expected_length_is_accepted (hvalid : request.validate = .ok ()) :
    (∀ first, 2 ≤ request.replyLength first ∧ request.replyLength first ≤ 253) ∧
      (∀ first body, (first :: body).length = request.replyLength first →
        (∃ reply, request.decodeReply (first :: body) = .ok reply) ∨
        (∃ function code,
          request.decodeReply (first :: body) = .error (.device function code)) ∨
        ∃ cause, request.decodeReply (first :: body) = .error (.protocol cause) ∧
          Objection request (first :: body) cause ∧ ¬cause.OfLength) ∧
      ∀ first body reply, request.decodeReply (first :: body) = .ok reply →
        (first :: body).length = request.replyLength first := by
  refine ⟨replyLength_bounds hvalid, ?_, fun _ _ _ => length_of_decodeReply hvalid⟩
  intro first body hlength
  cases hresult : request.decodeReply (first :: body) with
  | ok reply => exact .inl ⟨reply, rfl⟩
  | error error =>
      cases remote_decodeReply hvalid _ error hresult with
      | protocol hcause =>
          have hobjection := objection_of_decodeReply hvalid hlength hresult
          exact .inr (.inr ⟨_, rfl, hobjection, hobjection.not_ofLength⟩)
      | device function code => exact .inr (.inl ⟨function, code, rfl⟩)
      | timeout awaited limit => cases blames_decodeReply request _ _ hresult

/-- Two registers in six bytes that declare six bytes of data, and in as many bytes as
they declare. -/
theorem expected_length_is_accepted_misdeclared :
    (readRegisters 0 2).validate = .ok () ∧ (readRegisters 0 2).replyLength 3 = 6 ∧
      (∃ cause, (readRegisters 0 2).decodeReply [3, 6, 0, 1, 0, 2] = .error (.protocol cause) ∧
        Objection (readRegisters 0 2) [3, 6, 0, 1, 0, 2] cause ∧ ¬cause.OfLength) ∧
      (readRegisters 0 2).decodeReply [3, 4, 0, 1, 0, 2] = .ok (.registers [1, 2]) ∧
      [(3 : UInt8), 4, 0, 1, 0, 2].length = (readRegisters 0 2).replyLength 3 := by
  have hvalid : (readRegisters 0 2).validate = .ok () := rfl
  have hrefused : (readRegisters 0 2).decodeReply [3, 6, 0, 1, 0, 2] =
      .error (.protocol (.byteCount 6 4)) := rfl
  have haccepted : (readRegisters 0 2).decodeReply [3, 4, 0, 1, 0, 2] =
      .ok (.registers [1, 2]) := rfl
  obtain ⟨_, hexpected, hlength⟩ := expected_length_is_accepted hvalid
  refine ⟨hvalid, rfl, ?_, haccepted, hlength 3 _ _ haccepted⟩
  rcases hexpected 3 [6, 0, 1, 0, 2] rfl with ⟨reply, hreply⟩ | ⟨function, code, hdevice⟩ | hcause
  · rw [hrefused] at hreply
    cases hreply
  · rw [hrefused] at hdevice
    cases hdevice
  · exact hcause

end Request

end InstrumentLink
