import InstrumentLink.Message.Request

/-!
# Replies

A reply is validated against the request it answers: the function, the
declared byte count, the amount of data, or the echo.  An exception reply is
reported as a device error whatever was requested.
-/

namespace InstrumentLink

inductive Reply where
  | coils (values : List Bool)
  | registers (values : List UInt16)
  | coilWritten (address : UInt16) (value : Bool)
  | registersWritten (address count : UInt16)
  deriving DecidableEq, Repr

namespace Reply

/-- The bits of a byte, the least significant one first. -/
def bitsOf (byte : UInt8) : List Bool :=
  (List.range 8).map fun i => byte.toNat.testBit i

/-- The first `count` coils packed into bytes. -/
def unpackCoils (count : Nat) (data : List UInt8) : List Bool :=
  (data.flatMap bitsOf).take count

/-- The words packed into bytes; a single byte left over is not a word. -/
def unpackWords : List UInt8 → List UInt16
  | high :: low :: rest => Pdu.wordOf high low :: unpackWords rest
  | _ => []

/-- The items of `width` packed into the data of a reply. -/
def unpack (width : ItemWidth) (quantity : UInt16) (data : List UInt8) : Reply :=
  match width with
  | .bit => .coils (unpackCoils quantity.toNat data)
  | .word => .registers (unpackWords data)

/-- The items of a byte-counted reply; `body` is what follows the function. -/
def decodeCounted (request : Request) (width : ItemWidth) (body : List UInt8) :
    Except LinkError Reply :=
  let expected := width.dataLength request.quantity
  match body with
  | [] => .error (.protocol .noByteCount)
  | declared :: data =>
      if declared.toNat ≠ expected then
        .error (.protocol (.byteCount declared.toNat expected))
      else if data.length ≠ expected then
        .error (.protocol (.dataLength data.length expected))
      else .ok (unpack width request.quantity data)

/-- Accepts only the request itself. -/
def decodeEcho (request : Request) (reply : List UInt8) : Except LinkError Reply := do
  let sent ← request.encode
  if reply ≠ sent.bytes then .error (.protocol (.notAnEcho reply))
  else
    match request with
    | .writeCoil address value => .ok (.coilWritten address value)
    | _ => .error (.protocol .echoOfOther)

/-- Accepts only the header of the request. -/
def decodeHeaderEcho (request : Request) (reply : List UInt8) : Except LinkError Reply := do
  let sent ← request.encode
  if reply ≠ sent.bytes.take Request.headerLength then
    .error (.protocol (.headerMismatch reply))
  else .ok (.registersWritten request.address request.quantity)

end Reply

def Request.decodeReply (request : Request) (reply : List UInt8) : Except LinkError Reply :=
  match reply with
  | [] => .error (.protocol .emptyReply)
  | function :: body =>
      if isExceptionByte function then
        match body with
        | [] => .error (.protocol .exceptionWithoutCode)
        | code :: _ => .error (.device (function &&& 0x7F) (.ofByte code))
      else if function ≠ request.function.toByte then
        .error (.protocol (.wrongFunction request.function.toByte function))
      else
        match request.function.replyForm with
        | .byteCounted width => Reply.decodeCounted request width body
        | .echo => Reply.decodeEcho request reply
        | .headerEcho => Reply.decodeHeaderEcho request reply

end InstrumentLink
