import InstrumentLink.Message.Pdu

/-!
# Requests

A request names a function and what it addresses.  Any request can be written
down; `Request.validate` says which of them a device can be asked, and only
those are encoded.
-/

namespace InstrumentLink

inductive Request where
  | readCoils (address count : UInt16)
  | readRegisters (address count : UInt16)
  | writeCoil (address : UInt16) (value : Bool)
  | writeRegisters (address : UInt16) (values : List UInt16)
  deriving DecidableEq, Repr

namespace Request

def function : Request → FunctionCode
  | readCoils _ _ => .readCoils
  | readRegisters _ _ => .readRegisters
  | writeCoil _ _ => .writeCoil
  | writeRegisters _ _ => .writeRegisters

def address : Request → UInt16
  | readCoils address _ => address
  | readRegisters address _ => address
  | writeCoil address _ => address
  | writeRegisters address _ => address

def items : Request → Nat
  | readCoils _ count => count.toNat
  | readRegisters _ count => count.toNat
  | writeCoil _ _ => 1
  | writeRegisters _ values => values.length

/-- The number of items as a word; more than a word holds counts as the
largest word. -/
def quantity (request : Request) : UInt16 := UInt16.ofNat (min request.items 65535)

/-- Refuses a number of items outside the range of the function. -/
def validate (request : Request) : Except LinkError Unit :=
  if 1 ≤ request.items ∧ request.items ≤ request.function.maxQuantity then .ok ()
  else .error (.argument (.quantityRange request.function request.items))

/-- The request itself, if a device can be asked it. -/
def checked (request : Request) : Except LinkError Request := do
  request.validate
  return request

/-- The word that switches a coil. -/
def coilWord (value : Bool) : UInt16 := if value then 0xFF00 else 0x0000

def pushWords : List UInt16 → LinkM Pdu Unit
  | [] => pure ()
  | word :: rest => do
      Pdu.pushWord word
      pushWords rest

def pushBody (request : Request) : LinkM Pdu Unit := do
  Pdu.push request.function.toByte
  Pdu.pushWord request.address
  match request with
  | readCoils _ count => Pdu.pushWord count
  | readRegisters _ count => Pdu.pushWord count
  | writeCoil _ value => Pdu.pushWord (coilWord value)
  | writeRegisters _ values => do
      Pdu.pushWord request.quantity
      Pdu.push (UInt8.ofNat (2 * values.length))
      pushWords values

def encode (request : Request) : Except LinkError Pdu := do
  request.validate
  Pdu.build request.pushBody

/-- The bytes of a request as the function table lays them out. -/
def layout (request : Request) : List UInt8 :=
  request.function.toByte :: Pdu.wordBytes request.address ++
    match request with
    | readCoils _ count => Pdu.wordBytes count
    | readRegisters _ count => Pdu.wordBytes count
    | writeCoil _ value => Pdu.wordBytes (coilWord value)
    | writeRegisters _ values =>
        Pdu.wordBytes (UInt16.ofNat values.length) ++
          UInt8.ofNat (2 * values.length) :: values.flatMap Pdu.wordBytes

/-- Length of the part of a request that a header echo repeats. -/
def headerLength : Nat := 5

def successLength (request : Request) : Nat :=
  match request.function.replyForm with
  | .byteCounted width => 2 + width.dataLength request.quantity
  | .echo => headerLength
  | .headerEcho => headerLength

/-- Length of the reply that starts with `first`: an exception is two bytes
long whatever was requested. -/
def replyLength (request : Request) (first : UInt8) : Nat :=
  if isExceptionByte first then 2 else request.successLength

end Request

end InstrumentLink
