/-!
# Time on the wire

A character on a serial line is a start bit, its data bits, an optional parity
bit and its stop bits.  From the bit rate follows how long a number of
characters occupies the line.  The arithmetic is done in 64-bit words, so
an estimate that leaves them has no value.
-/

namespace InstrumentLink

/-- Bit rate of a line and bits per character. -/
structure CharFormat where
  baud : UInt32
  bits : UInt32
  deriving DecidableEq, Repr

namespace CharFormat

/-- The format of characters with the given data, parity and stop bits, and
one start bit. -/
def ofShape (baud : UInt32) (dataBits : UInt8) (parity : Bool) (stopBits : UInt8) : CharFormat :=
  { baud
    bits := 1 + dataBits.toUInt32 + (if parity then 1 else 0) + stopBits.toUInt32 }

/-- What is assumed of a line that cannot tell: 9600 baud, ten bits. -/
def fallback : CharFormat := { baud := 9600, bits := 10 }

/-- The product of two 64-bit words, if it is one. -/
def mul? (a b : Nat) : Option Nat := if a * b < UInt64.size then some (a * b) else none

/-- The quotient, rounded up. -/
def divUp (a b : Nat) : Nat := a / b + if a % b = 0 then 0 else 1

/-- Milliseconds that `bytes` characters occupy the line, rounded up; `none`
where a product leaves 64 bits.  A line without a bit rate takes no time. -/
def transferTime? (format : CharFormat) (bytes : Nat) : Option Nat :=
  if format.baud = 0 then some 0
  else do
    let bits ← mul? bytes format.bits.toNat
    let scaled ← mul? bits 1000
    return divUp scaled format.baud.toNat

end CharFormat

end InstrumentLink
