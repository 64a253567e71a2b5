import InstrumentLink.Text.Hex

/-!
# Function codes

The supported functions, how many items one request may address, and how a
success reply relates to its request.  Encoding, reply length and reply
validation all follow this table.
-/

namespace InstrumentLink

inductive ItemWidth where
  /-- Eight items to a byte, the first one in the least significant bit. -/
  | bit
  /-- One big-endian word for each item. -/
  | word
  deriving DecidableEq, Repr

/-- Data bytes that hold `quantity` items. -/
def ItemWidth.dataLength : ItemWidth → UInt16 → Nat
  | bit, quantity => (quantity.toNat + 7) / 8
  | word, quantity => 2 * quantity.toNat

/-- How a success reply relates to its request. -/
inductive ReplyForm where
  /-- The function, a byte count, and data sized by the requested quantity. -/
  | byteCounted (width : ItemWidth)
  /-- The request itself. -/
  | echo
  /-- The function, address and quantity of the request. -/
  | headerEcho
  deriving DecidableEq, Repr

inductive FunctionCode where
  | readCoils
  | readRegisters
  | writeCoil
  | writeRegisters
  deriving DecidableEq, Repr

namespace FunctionCode

def toByte : FunctionCode → UInt8
  | readCoils => 0x01
  | readRegisters => 0x03
  | writeCoil => 0x05
  | writeRegisters => 0x10

def ofByte? (byte : UInt8) : Option FunctionCode :=
  [readCoils, readRegisters, writeCoil, writeRegisters].find? fun f => f.toByte == byte

def name : FunctionCode → String
  | readCoils => "Read Coils"
  | readRegisters => "Read Holding Registers"
  | writeCoil => "Write Single Coil"
  | writeRegisters => "Write Multiple Registers"

/-- The most items that one request may address. -/
def maxQuantity : FunctionCode → Nat
  | readCoils => 2000
  | readRegisters => 125
  | writeCoil => 1
  | writeRegisters => 123

def replyForm : FunctionCode → ReplyForm
  | readCoils => .byteCounted .bit
  | readRegisters => .byteCounted .word
  | writeCoil => .echo
  | writeRegisters => .headerEcho

/-- The name and the code, as messages show them. -/
def text (f : FunctionCode) : String :=
  f.name ++ " (0x" ++ Hex.byte f.toByte ++ ")"

theorem ofByte?_toByte (f : FunctionCode) : ofByte? f.toByte = some f := by
  cases f <;> rfl

end FunctionCode

/-- Whether the first byte of a reply marks a device exception: its most
significant bit is set. -/
def isExceptionByte (byte : UInt8) : Bool := byte &&& 0x80 != 0

end InstrumentLink
