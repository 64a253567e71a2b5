/-!
# Frame checksum

The sixteen-bit cyclic redundancy check that ends a frame: reflected
polynomial `0xA001`, initial value `0xFFFF`, no final inversion.  Bits enter
in transmission order, bytes in order and the least significant bit of each
byte first.
-/

namespace InstrumentLink.Checksum

/-- The polynomial, least significant coefficient in the most significant bit. -/
def polynomial : UInt16 := 0xA001

/-- Moves the register on by one bit. -/
def shift (register : UInt16) : UInt16 :=
  if register &&& 1 = 1 then (register >>> 1) ^^^ polynomial else register >>> 1

/-- Moves the register on by `count` bits. -/
def shifts : Nat → UInt16 → UInt16
  | 0, register => register
  | count + 1, register => shifts count (shift register)

/-- Takes one byte into the register. -/
def absorb (register : UInt16) (byte : UInt8) : UInt16 :=
  shifts 8 (register ^^^ byte.toUInt16)

def run (register : UInt16) (bytes : List UInt8) : UInt16 := bytes.foldl absorb register

end InstrumentLink.Checksum

namespace InstrumentLink

/-- The checksum of a sequence of bytes. -/
def checksum (bytes : List UInt8) : UInt16 := Checksum.run 0xFFFF bytes

end InstrumentLink
