/-!
# Hexadecimal text

Bytes are shown as two upper-case digits.  A packet dump separates them by
single blanks; a listing, used inside messages, separates them by commas and
stands in square brackets.
-/

namespace InstrumentLink.Hex

/-- The upper-case digit of a value below sixteen. -/
def digit (value : Nat) : Char :=
  if value < 10 then Char.ofNat (48 + value) else Char.ofNat (55 + value)

/-- Both digits of a byte, the more significant one first. -/
def byteChars (byte : UInt8) : List Char :=
  [digit (byte.toNat / 16), digit (byte.toNat % 16)]

def byte (value : UInt8) : String := String.ofList (byteChars value)

/-- The four digits of a word, the more significant byte first. -/
def word (value : UInt16) : String :=
  String.ofList (byteChars (value >>> 8).toUInt8 ++ byteChars value.toUInt8)

/-- The characters of a packet dump. -/
def packetChars : List UInt8 → List Char
  | [] => []
  | [last] => byteChars last
  | first :: rest => byteChars first ++ ' ' :: packetChars rest

/-- A packet dump: byte pairs separated by single blanks. -/
def packet (bytes : List UInt8) : String := String.ofList (packetChars bytes)

/-- A bracketed listing of bytes, as messages quote them. -/
def listing (bytes : List UInt8) : String :=
  "[" ++ ", ".intercalate (bytes.map byte) ++ "]"

@[simp]
theorem length_byteChars (byte : UInt8) : (byteChars byte).length = 2 := rfl

end InstrumentLink.Hex
