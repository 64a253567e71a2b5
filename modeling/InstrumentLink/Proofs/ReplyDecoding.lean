import InstrumentLink.Proofs.Blame
import InstrumentLink.Proofs.PackedBits
import InstrumentLink.Proofs.RequestWire

/-!
# What replies say

For a valid request there is exactly one way to say each answer: the bytes that
are accepted are those that say something, and what they say is what they are
decoded to.  An exception of the device takes two bytes, and whatever is left is
refused as a breach of the protocol.
-/

namespace InstrumentLink

open Pdu

theorem isExceptionByte_iff (byte : UInt8) : isExceptionByte byte = true ↔ 0x80 ≤ byte.toNat := by
  have hall : ∀ n < 256, (isExceptionByte (UInt8.ofNat n) = true ↔ 0x80 ≤ n) := by decide +kernel
  have hbyte := hall byte.toNat byte.toNat_lt
  rwa [UInt8.ofNat_toNat] at hbyte

/-- Every code is kept, listed or not. -/
theorem ExceptionCode.toByte_ofByte (byte : UInt8) : (ofByte byte).toByte = byte := by
  unfold ofByte
  split <;> rfl

namespace LinkError

/-- What can become of a valid request through the far end of the link alone. -/
inductive Remote : LinkError → Prop
  | protocol {cause : ProtocolCause} (hcause : cause.OfReply) : Remote (.protocol cause)
  | device (function : UInt8) (code : ExceptionCode) : Remote (.device function code)
  | timeout (awaited : Awaited) (limit : Nat) : Remote (.timeout awaited limit)

theorem Refusal.isRemote {error : LinkError} (h : Refusal error) : error.Remote := by
  cases h with
  | protocol hcause => exact .protocol hcause

end LinkError

open LinkError

/-- The encoding of a valid request does not fail. -/
theorem Request.remote_encode {request : Request} (hvalid : request.validate = .ok ()) :
    Blames Remote request.encode := by
  obtain ⟨pdu, hencode, _⟩ := exists_encode hvalid
  rw [hencode]
  exact blames_ok _

namespace Reply

variable {request : Request} {width : ItemWidth} {bytes body : List UInt8} {reply : Reply}

theorem decodeCounted_eq_ok_iff :
    decodeCounted request width body = .ok reply ↔ ∃ declared data, body = declared :: data ∧
      declared.toNat = width.dataLength request.quantity ∧
      data.length = width.dataLength request.quantity ∧
      unpack width request.quantity data = reply := by
  constructor
  · intro haccepted
    cases body with
    | nil => cases haccepted
    | cons declared data =>
        simp only [decodeCounted] at haccepted
        split at haccepted
        · cases haccepted
        · next hdeclared =>
            split at haccepted
            · cases haccepted
            · next hlength =>
                exact ⟨declared, data, rfl, Decidable.not_not.mp hdeclared,
                  Decidable.not_not.mp hlength, Except.ok.inj haccepted⟩
  · rintro ⟨declared, data, rfl, hdeclared, hlength, rfl⟩
    simp [decodeCounted, hdeclared, hlength]

/-- Only the expected bytes are answered. -/
theorem expecting_eq_ok_iff {expected : List UInt8} {error : LinkError} {value : Reply} :
    (if bytes ≠ expected then .error error else .ok value : Except LinkError Reply) = .ok reply ↔
      bytes = expected ∧ value = reply := by
  by_cases hsame : bytes = expected
  · simp [hsame]
  · simp [hsame]

theorem decodeEcho_eq_ok_iff {address : UInt16} {value : Bool} {pdu : Pdu}
    (hencode : (Request.writeCoil address value).encode = .ok pdu) :
    decodeEcho (.writeCoil address value) bytes = .ok reply ↔
      bytes = pdu.bytes ∧ coilWritten address value = reply := by
  simp only [decodeEcho, hencode]
  exact expecting_eq_ok_iff

theorem decodeHeaderEcho_eq_ok_iff {pdu : Pdu} (hencode : request.encode = .ok pdu) :
    decodeHeaderEcho request bytes = .ok reply ↔
      bytes = pdu.bytes.take 5 ∧ registersWritten request.address request.quantity = reply := by
  simp only [decodeHeaderEcho, hencode]
  exact expecting_eq_ok_iff

/-- Only the writing of a coil is answered by an echo. -/
theorem remote_decodeEcho (address : UInt16) (value : Bool) (bytes : List UInt8) :
    Blames Remote (decodeEcho (.writeCoil address value) bytes) := by
  simp only [decodeEcho]
  apply (Request.remote_encode rfl).bind
  intro sent
  split
  · exact (blames_error _).mpr (.protocol trivial)
  · exact blames_ok _

theorem remote_decodeHeaderEcho (hvalid : request.validate = .ok ()) (bytes : List UInt8) :
    Blames Remote (decodeHeaderEcho request bytes) := by
  rw [decodeHeaderEcho]
  apply (Request.remote_encode hvalid).bind
  intro sent
  split
  · exact (blames_error _).mpr (.protocol trivial)
  · exact blames_ok _

end Reply

namespace Request

open Reply

/-- The replies that say something in answer to a request, and what they say. -/
inductive Says : Request → List UInt8 → Reply → Prop
  | registers {address count : UInt16} {declared : UInt8} {data : List UInt8}
      {values : List UInt16} (hcount : values.length = count.toNat)
      (hdeclared : declared.toNat = 2 * count.toNat)
      (hdata : data.map UInt8.toNat = values.flatMap fun word => bigEndian word.toNat) :
      Says (.readRegisters address count) (0x03 :: declared :: data) (.registers values)
  | coils {address count : UInt16} {declared : UInt8} {data : List UInt8} {values : List Bool}
      (hdeclared : declared.toNat = (count.toNat + 7) / 8)
      (hdata : data.length = (count.toNat + 7) / 8)
      (hcount : values.length = count.toNat)
      (hvalues : ∀ position < count.toNat, values[position]? = Reply.bit? data position) :
      Says (.readCoils address count) (0x01 :: declared :: data) (.coils values)
  | coilWritten {address : UInt16} {value : Bool} {pdu : Pdu}
      (hencode : (writeCoil address value).encode = .ok pdu) :
      Says (.writeCoil address value) pdu.bytes (.coilWritten address value)
  | registersWritten {address count : UInt16} {values : List UInt16} {pdu : Pdu}
      (hencode : (writeRegisters address values).encode = .ok pdu)
      (hcount : count.toNat = values.length) :
      Says (.writeRegisters address values) (pdu.bytes.take 5) (.registersWritten address count)

/-- The bytes that report an exception of the device: two of them, whatever comes
behind.  Of the first one the mark is left out, and the second one is kept. -/
def Excepts (bytes : List UInt8) (function : UInt8) (code : ExceptionCode) : Prop :=
  ∃ first byte rest, bytes = first :: byte :: rest ∧ 0x80 ≤ first.toNat ∧
    function = first &&& 0x7F ∧ code = .ofByte byte ∧ code.toByte = byte

variable {request : Request} {bytes body : List UInt8} {reply : Reply}

theorem not_isExceptionByte_function (request : Request) :
    ¬isExceptionByte request.function.toByte = true := by
  cases request.function <;> decide

/-- Behind the function that was asked for the reply has the form of the function. -/
theorem decodeReply_function (request : Request) (body : List UInt8) :
    request.decodeReply (request.function.toByte :: body) =
      match request.function.replyForm with
      | .byteCounted width => Reply.decodeCounted request width body
      | .echo => Reply.decodeEcho request (request.function.toByte :: body)
      | .headerEcho => Reply.decodeHeaderEcho request (request.function.toByte :: body) :=
  (if_neg request.not_isExceptionByte_function).trans (if_neg (not_not_intro rfl))

theorem function_of_decodeReply (haccepted : request.decodeReply bytes = .ok reply) :
    ∃ body, bytes = request.function.toByte :: body := by
  cases bytes with
  | nil => cases haccepted
  | cons function body =>
      simp only [decodeReply] at haccepted
      split at haccepted
      · split at haccepted <;> cases haccepted
      · split at haccepted
        · cases haccepted
        · next hfunction => exact ⟨body, by rw [Decidable.not_not.mp hfunction]⟩

/-- What is left of a reply to accept once its function is right. -/
theorem decodeReply_eq_ok_iff_of_function {accepts : List UInt8 → Prop}
    (hbody : ∀ body, request.decodeReply (request.function.toByte :: body) = .ok reply ↔
      accepts (request.function.toByte :: body))
    (hfunction : ∀ bytes, accepts bytes → ∃ body, bytes = request.function.toByte :: body) :
    request.decodeReply bytes = .ok reply ↔ accepts bytes := by
  constructor
  · intro haccepted
    obtain ⟨body, rfl⟩ := function_of_decodeReply haccepted
    exact (hbody body).mp haccepted
  · intro haccepts
    obtain ⟨body, rfl⟩ := hfunction bytes haccepts
    exact (hbody body).mpr haccepts

/-- Whatever says something names the function that was asked for. -/
theorem Says.function (hsaid : Says request bytes reply) :
    ∃ body, bytes = request.function.toByte :: body := by
  cases hsaid with
  | registers hcount hdeclared hdata => exact ⟨_, rfl⟩
  | coils hdeclared hdata hcount hvalues => exact ⟨_, rfl⟩
  | coilWritten hencode => exact ⟨_, bytes_of_encode hencode⟩
  | registersWritten hencode hcount =>
      rw [bytes_of_encode hencode]
      exact ⟨_, rfl⟩

theorem decodeReply_readRegisters {address count : UInt16}
    (hvalid : (readRegisters address count).validate = .ok ()) :
    Reply.decodeCounted (readRegisters address count) .word body = .ok reply ↔
      Says (readRegisters address count) (0x03 :: body) reply := by
  have hquantity : (readRegisters address count).quantity.toNat = count.toNat :=
    quantity_toNat hvalid
  rw [Reply.decodeCounted_eq_ok_iff]
  simp only [ItemWidth.dataLength, hquantity]
  constructor
  · rintro ⟨declared, data, rfl, hdeclared, hlength, rfl⟩
    obtain ⟨hcount, hpacked⟩ := Reply.unpackWords_spec hlength
    refine .registers hcount hdeclared ?_
    rw [← map_toNat_flatMap_wordBytes, hpacked]
  · intro hsaid
    cases hsaid with
    | registers hcount hdeclared hdata =>
        obtain rfl := eq_of_map_toNat (hdata.trans (map_toNat_flatMap_wordBytes _).symm)
        refine ⟨_, _, rfl, hdeclared, ?_, ?_⟩
        · rw [length_flatMap_wordBytes, hcount]
        · rw [Reply.unpack, Reply.unpackWords_flatMap]

/-- As many bytes as hold a number of bits hold it. -/
theorem le_bits_of_dataLength {count : Nat} {data : List UInt8}
    (hdata : data.length = (count + 7) / 8) : count ≤ 8 * data.length := by
  omega

theorem decodeReply_readCoils {address count : UInt16}
    (hvalid : (readCoils address count).validate = .ok ()) :
    Reply.decodeCounted (readCoils address count) .bit body = .ok reply ↔
      Says (readCoils address count) (0x01 :: body) reply := by
  have hquantity : (readCoils address count).quantity.toNat = count.toNat :=
    quantity_toNat hvalid
  rw [Reply.decodeCounted_eq_ok_iff]
  simp only [ItemWidth.dataLength, hquantity, Reply.unpack]
  constructor
  · rintro ⟨declared, data, rfl, hdeclared, hlength, rfl⟩
    exact .coils hdeclared hlength
      (Reply.length_unpackCoils (le_bits_of_dataLength hlength))
      fun position hposition => Reply.getElem?_unpackCoils _ data hposition
  · intro hsaid
    cases hsaid with
    | coils hdeclared hdata hcount hvalues =>
        refine ⟨_, _, rfl, hdeclared, hdata, congrArg Reply.coils (List.ext_getElem? ?_)⟩
        have hlength := Reply.length_unpackCoils (le_bits_of_dataLength hdata)
        intro position
        by_cases hposition : position < count.toNat
        · rw [hvalues position hposition, Reply.getElem?_unpackCoils _ _ hposition]
        · rw [List.getElem?_eq_none (by omega), List.getElem?_eq_none (by omega)]

theorem decodeReply_writeCoil {address : UInt16} {value : Bool} :
    Reply.decodeEcho (writeCoil address value) bytes = .ok reply ↔
      Says (writeCoil address value) bytes reply := by
  have hvalid : (writeCoil address value).validate = .ok () := rfl
  obtain ⟨pdu, hencode, _⟩ := exists_encode hvalid
  rw [decodeEcho_eq_ok_iff hencode]
  constructor
  · rintro ⟨rfl, rfl⟩
    exact .coilWritten hencode
  · intro hsaid
    cases hsaid with
    | coilWritten hsent =>
        cases hencode.symm.trans hsent
        exact ⟨rfl, rfl⟩

theorem decodeReply_writeRegisters {address : UInt16} {values : List UInt16}
    (hvalid : (writeRegisters address values).validate = .ok ()) :
    Reply.decodeHeaderEcho (writeRegisters address values) bytes = .ok reply ↔
      Says (writeRegisters address values) bytes reply := by
  have hquantity : (writeRegisters address values).quantity.toNat = values.length :=
    quantity_toNat hvalid
  obtain ⟨pdu, hencode, _⟩ := exists_encode hvalid
  rw [decodeHeaderEcho_eq_ok_iff hencode]
  constructor
  · rintro ⟨rfl, rfl⟩
    exact .registersWritten hencode hquantity
  · intro hsaid
    cases hsaid with
    | registersWritten hsent hcount =>
        cases hencode.symm.trans hsent
        rw [UInt16.toNat_inj.mp (hcount.trans hquantity.symm)]
        exact ⟨rfl, rfl⟩

/-- The replies that are accepted are those that say something, and they are
decoded to what they say. -/
theorem decodeReply_eq_ok_iff (hvalid : request.validate = .ok ()) :
    request.decodeReply bytes = .ok reply ↔ Says request bytes reply := by
  refine decodeReply_eq_ok_iff_of_function ?_ fun _ => Says.function
  intro body
  rw [decodeReply_function]
  cases request with
  | readCoils address count => exact decodeReply_readCoils hvalid
  | readRegisters address count => exact decodeReply_readRegisters hvalid
  | writeCoil address value => exact decodeReply_writeCoil
  | writeRegisters address values => exact decodeReply_writeRegisters hvalid

/-- An exception is one whatever was requested. -/
theorem decodeReply_eq_device_iff {function : UInt8} {code : ExceptionCode} :
    request.decodeReply bytes = .error (.device function code) ↔ Excepts bytes function code := by
  constructor
  · intro hfailed
    cases bytes with
    | nil => cases hfailed
    | cons first body =>
        simp only [decodeReply] at hfailed
        split at hfailed
        · next hexception =>
            cases body with
            | nil => cases hfailed
            | cons byte rest =>
                cases hfailed
                exact ⟨first, byte, rest, rfl, (isExceptionByte_iff first).mp hexception, rfl, rfl,
                  ExceptionCode.toByte_ofByte byte⟩
        · split at hfailed
          · cases hfailed
          · -- None of the three forms of a success reply is refused as an exception.
            have hlocal : ∀ result : Except LinkError Reply, Blames Local result →
                result ≠ .error (.device function code) := by
              intro result hblames hdevice
              cases (hblames _ hdevice).2
            split at hfailed
            · exact absurd hfailed (hlocal _ (Reply.blames_decodeCounted _ _ _))
            · exact absurd hfailed (hlocal _ (Reply.blames_decodeEcho _ _))
            · exact absurd hfailed (hlocal _ (Reply.blames_decodeHeaderEcho _ _))
  · rintro ⟨first, byte, rest, rfl, hfirst, rfl, rfl, _⟩
    simp only [decodeReply, (isExceptionByte_iff first).mpr hfirst, if_true]

/-- No reply to a valid request is refused for the fault of anyone else. -/
theorem remote_decodeReply (hvalid : request.validate = .ok ()) (bytes : List UInt8) :
    Blames Remote (request.decodeReply bytes) := by
  cases bytes with
  | nil => exact (blames_error _).mpr (.protocol trivial)
  | cons function body =>
      simp only [decodeReply]
      split
      · cases body with
        | nil => exact (blames_error _).mpr (.protocol trivial)
        | cons code rest => exact (blames_error _).mpr (.device _ _)
      · split
        · exact (blames_error _).mpr (.protocol trivial)
        · cases request with
          | readCoils address count =>
              exact (refusal_decodeCounted _ _ _).mono fun _ => Refusal.isRemote
          | readRegisters address count =>
              exact (refusal_decodeCounted _ _ _).mono fun _ => Refusal.isRemote
          | writeCoil address value => exact remote_decodeEcho _ _ _
          | writeRegisters address values => exact remote_decodeHeaderEcho hvalid _

/-- The padding is all that may differ between replies that name the same coils. -/
theorem coils_eq_iff {address count : UInt16} (hvalid : (readCoils address count).validate = .ok ())
    {first second : List UInt8} {reply other : Reply}
    (hfirst : (readCoils address count).decodeReply first = .ok reply)
    (hsecond : (readCoils address count).decodeReply second = .ok other) :
    reply = other ↔ SameButPadding count.toNat first second := by
  have hquantity : (readCoils address count).quantity.toNat = count.toNat :=
    quantity_toNat hvalid
  have hcount : 1 ≤ count.toNat := ((validate_eq_ok_iff _).mp hvalid).1
  obtain ⟨body, rfl⟩ := function_of_decodeReply hfirst
  obtain ⟨more, rfl⟩ := function_of_decodeReply hsecond
  rw [decodeReply_function] at hfirst hsecond
  obtain ⟨declared, data, rfl, hdeclared, hdata, rfl⟩ := Reply.decodeCounted_eq_ok_iff.mp hfirst
  obtain ⟨named, rest, rfl, hnamed, hrest, rfl⟩ := Reply.decodeCounted_eq_ok_iff.mp hsecond
  have hsame : declared = named := UInt8.toNat_inj.mp (hdeclared.trans hnamed.symm)
  rw [ItemWidth.dataLength, hquantity] at hdata hrest
  have hsome : data ≠ [] := List.ne_nil_of_length_pos (by omega)
  rw [sameButPadding_cons (List.cons_ne_nil _ _), sameButPadding_cons hsome,
    ← unpackCoils_eq_iff hcount hdata hrest]
  simp only [Reply.unpack, hquantity, Reply.coils.injEq, hsame, true_and]

/-- The decoding of replies is exact: it accepts what says something, and nothing
else; it reports the exceptions of the device, and no others; it refuses the rest
as a breach of the protocol; and of the coils it reads nothing but the padding is
lost. -/
theorem decodeReply_exact (hvalid : request.validate = .ok ()) (bytes : List UInt8) :
    (∀ reply, request.decodeReply bytes = .ok reply ↔ Says request bytes reply) ∧
      (∀ function code, request.decodeReply bytes = .error (.device function code) ↔
        Excepts bytes function code) ∧
      ((∀ reply, ¬Says request bytes reply) → (∀ function code, ¬Excepts bytes function code) →
        ∃ cause, cause.OfReply ∧ request.decodeReply bytes = .error (.protocol cause)) ∧
      ∀ address count, request = .readCoils address count → ∀ second reply other,
        request.decodeReply bytes = .ok reply → request.decodeReply second = .ok other →
          (reply = other ↔ SameButPadding count.toNat bytes second) := by
  refine ⟨fun reply => decodeReply_eq_ok_iff hvalid, fun _ _ => decodeReply_eq_device_iff, ?_, ?_⟩
  · intro hsilent hnormal
    cases hresult : request.decodeReply bytes with
    | ok reply => exact absurd ((decodeReply_eq_ok_iff hvalid).mp hresult) (hsilent reply)
    | error error =>
        cases remote_decodeReply hvalid bytes error hresult with
        | protocol hcause => exact ⟨_, hcause, rfl⟩
        | device function code =>
            exact absurd (decodeReply_eq_device_iff.mp hresult) (hnormal function code)
        | timeout awaited limit => cases blames_decodeReply request bytes _ hresult
  · rintro address count rfl second reply other hfirst hsecond
    exact coils_eq_iff hvalid hfirst hsecond

/-- Ten coils in two bytes, with and without garbage in the six bits left over. -/
theorem decodeReply_exact_padded :
    (readCoils 19 10).validate = .ok () ∧
      Says (readCoils 19 10) [1, 2, 205, 1]
        (.coils [true, false, true, true, false, false, true, true, true, false]) ∧
      ¬Excepts [1, 2, 205, 1] 1 .illegalFunction ∧
      SameButPadding 10 [1, 2, 205, 1] [1, 2, 205, 253] := by
  have hvalid : (readCoils 19 10).validate = .ok () := rfl
  obtain ⟨haccepts, hexcepts, _, hpadding⟩ := decodeReply_exact hvalid [1, 2, 205, 1]
  have hfirst : (readCoils 19 10).decodeReply [1, 2, 205, 1] =
      .ok (.coils [true, false, true, true, false, false, true, true, true, false]) := rfl
  refine ⟨hvalid, (haccepts _).mp hfirst, ?_, ?_⟩
  · intro hexception
    have hdevice := (hexcepts _ _).mpr hexception
    rw [hfirst] at hdevice
    cases hdevice
  · exact (hpadding 19 10 rfl [1, 2, 205, 253] _ _ hfirst rfl).mp rfl

end Request

end InstrumentLink
