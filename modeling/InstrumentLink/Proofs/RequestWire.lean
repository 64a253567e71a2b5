import InstrumentLink.Proofs.RequestLayout
import InstrumentLink.Proofs.WordBytes

/-!
# Requests on the wire

Exactly the requests in the range of their function can be encoded, and what
goes out is, number by number, what the function table says.  A reader that
follows the table finds out from the bytes alone where a request ends, so no
request is taken for the beginning of another one.
-/

namespace InstrumentLink.Request

open Pdu

def wire : Request → List Nat
  | readCoils address count => 0x01 :: bigEndian address.toNat ++ bigEndian count.toNat
  | readRegisters address count => 0x03 :: bigEndian address.toNat ++ bigEndian count.toNat
  | writeCoil address value =>
      0x05 :: bigEndian address.toNat ++ if value then [0xFF, 0x00] else [0x00, 0x00]
  | writeRegisters address values =>
      0x10 :: bigEndian address.toNat ++ bigEndian values.length ++
        2 * values.length :: values.flatMap fun word => bigEndian word.toNat

def wireLength : Request → Nat
  | writeRegisters _ values => 6 + 2 * values.length
  | _ => 5

/-- Reads what follows the header of a request. -/
def parseBody (address word : UInt16) :
    FunctionCode → List UInt8 → Option (Request × List UInt8)
  | .readCoils, rest => some (readCoils address word, rest)
  | .readRegisters, rest => some (readRegisters address word, rest)
  | .writeCoil, rest => some (writeCoil address (word == coilWord true), rest)
  | .writeRegisters, _ :: rest =>
      some (writeRegisters address (Reply.unpackWords (rest.take (2 * word.toNat))),
        rest.drop (2 * word.toNat))
  | .writeRegisters, [] => none

/-- Reads a request off the front of a stream; what follows it is left over. -/
def parse : List UInt8 → Option (Request × List UInt8)
  | function :: addressHigh :: addressLow :: high :: low :: rest => do
      let function ← FunctionCode.ofByte? function
      parseBody (wordOf addressHigh addressLow) (wordOf high low) function rest
  | _ => none

variable {request other : Request} {pdu last : Pdu}

/-- A valid request is short enough for its counts to be written down. -/
theorem length_values_le {address : UInt16} {values : List UInt16}
    (hvalid : (writeRegisters address values).validate = .ok ()) : values.length ≤ 123 :=
  ((validate_eq_ok_iff _).mp hvalid).2

theorem toNat_ofNat_length {address : UInt16} {values : List UInt16}
    (hvalid : (writeRegisters address values).validate = .ok ()) :
    (UInt16.ofNat values.length).toNat = values.length := by
  have hshort := length_values_le hvalid
  rw [UInt16.toNat_ofNat']
  omega

/-- No count of a valid request is cut when it is written down. -/
theorem map_toNat_layout (hvalid : request.validate = .ok ()) :
    request.layout.map UInt8.toNat = request.wire := by
  cases request with
  | readCoils address count =>
      simp only [layout, wire, List.map_append, List.map_cons, map_toNat_wordBytes]
      rfl
  | readRegisters address count =>
      simp only [layout, wire, List.map_append, List.map_cons, map_toNat_wordBytes]
      rfl
  | writeCoil address value =>
      have hcoil : (wordBytes (coilWord value)).map UInt8.toNat =
          if value then [0xFF, 0x00] else [0x00, 0x00] := by
        cases value <;> rfl
      rw [layout, List.map_append, List.map_cons, map_toNat_wordBytes, hcoil]
      rfl
  | writeRegisters address values =>
      have hshort := length_values_le hvalid
      have hbytes : (UInt8.ofNat (2 * values.length)).toNat = 2 * values.length := by
        rw [UInt8.toNat_ofNat']
        omega
      simp only [layout, wire, List.map_append, List.map_cons, map_toNat_wordBytes,
        map_toNat_flatMap_wordBytes, toNat_ofNat_length hvalid, hbytes, List.append_assoc]
      rfl

theorem parse_header (function : FunctionCode) (address word : UInt16) (rest : List UInt8) :
    parse (function.toByte :: wordBytes address ++ (wordBytes word ++ rest)) =
      parseBody address word function rest := by
  simp [wordBytes, parse, FunctionCode.ofByte?_toByte]

/-- A reader finds a valid request, and the end of it. -/
theorem parse_layout (hvalid : request.validate = .ok ()) (rest : List UInt8) :
    parse (request.layout ++ rest) = some (request, rest) := by
  cases request with
  | readCoils address count =>
      rw [layout, List.append_assoc]
      exact parse_header .readCoils address count rest
  | readRegisters address count =>
      rw [layout, List.append_assoc]
      exact parse_header .readRegisters address count rest
  | writeCoil address value =>
      have hcoil : (coilWord value == coilWord true) = value := by cases value <;> rfl
      rw [layout, List.append_assoc]
      exact (parse_header .writeCoil address (coilWord value) rest).trans (by rw [parseBody, hcoil])
  | writeRegisters address values =>
      have hlength := length_flatMap_wordBytes values
      have hbody : parseBody address (UInt16.ofNat values.length) .writeRegisters
          (UInt8.ofNat (2 * values.length) :: (values.flatMap wordBytes ++ rest)) =
            some (writeRegisters address values, rest) := by
        rw [parseBody, toNat_ofNat_length hvalid, ← hlength, List.take_left, List.drop_left,
          Reply.unpackWords_flatMap]
      rw [layout, List.append_assoc, List.append_assoc, List.cons_append]
      exact (parse_header .writeRegisters address _ _).trans hbody

theorem bytes_of_encode (hencode : request.encode = .ok pdu) : pdu.bytes = request.layout := by
  obtain ⟨built, hbuilt, hlayout⟩ := exists_encode (validate_of_encode hencode)
  rw [hbuilt] at hencode
  cases hencode
  exact hlayout

/-- Only the same request begins with the same bytes. -/
theorem eq_of_encode_isPrefix (hencode : request.encode = .ok pdu)
    (hother : other.encode = .ok last) (hbegins : pdu.bytes <+: last.bytes) : request = other := by
  obtain ⟨rest, hrest⟩ := hbegins
  rw [bytes_of_encode hencode, bytes_of_encode hother] at hrest
  have hfront := parse_layout (validate_of_encode hencode) rest
  have hwhole := parse_layout (validate_of_encode hother) []
  -- Both readings are of the same bytes, so they find the same request.
  rw [hrest] at hfront
  rw [List.append_nil, hfront] at hwhole
  exact congrArg Prod.fst (Option.some.inj hwhole)

/-- What a request comes to when it is encoded. -/
structure Encoded (request : Request) (pdu : Pdu) : Prop where
  /-- It goes out as the function table says, and no number is cut to a byte. -/
  wire : pdu.bytes.map UInt8.toNat = request.wire
  length : pdu.bytes.length = request.wireLength
  fits : request.wireLength ≤ maxPduSize
  /-- No other request begins with the same bytes. -/
  alone : ∀ {other : Request} {last : Pdu},
    other.encode = .ok last → pdu.bytes <+: last.bytes → request = other

theorem encoded_of_encode (hencode : request.encode = .ok pdu) : Encoded request pdu := by
  have hvalid := validate_of_encode hencode
  have hbytes := bytes_of_encode hencode
  have hlength : pdu.bytes.length = request.wireLength := by
    rw [hbytes, length_layout]
    cases request <;> rfl
  exact {
    wire := by rw [hbytes, map_toNat_layout hvalid]
    length := hlength
    fits := hlength ▸ pdu.length_bytes_le
    alone := eq_of_encode_isPrefix hencode }

/-- Exactly the valid requests are encoded, exactly the requests in the range of
their function are valid, and every encoding is faithful and ends by itself. -/
theorem encode_faithful (request : Request) :
    ((∃ pdu, request.encode = .ok pdu) ↔ request.validate = .ok ()) ∧
      (request.validate = .ok () ↔
        1 ≤ request.items ∧ request.items ≤ request.function.maxQuantity) ∧
      ∀ pdu, request.encode = .ok pdu → Encoded request pdu := by
  refine ⟨⟨?_, ?_⟩, validate_eq_ok_iff request, fun pdu => encoded_of_encode⟩
  · rintro ⟨pdu, hencode⟩
    exact validate_of_encode hencode
  · intro hvalid
    obtain ⟨pdu, hencode, _⟩ := exists_encode hvalid
    exact ⟨pdu, hencode⟩

/-- Two words, the second one of two bytes that differ. -/
theorem encode_faithful_two_words :
    ∃ pdu, (writeRegisters 1 [10, 258]).encode = .ok pdu ∧
      pdu.bytes = [16, 0, 1, 0, 2, 4, 0, 10, 1, 2] ∧ Encoded (writeRegisters 1 [10, 258]) pdu := by
  obtain ⟨hencoded, hrange, hfaithful⟩ := encode_faithful (writeRegisters 1 [10, 258])
  obtain ⟨pdu, hencode⟩ := hencoded.mpr (hrange.mpr (by decide))
  exact ⟨pdu, hencode, bytes_of_encode hencode, hfaithful pdu hencode⟩

end InstrumentLink.Request
