import InstrumentLink.Message.ExceptionCode
import InstrumentLink.Message.FunctionCode

/-!
# Errors

Every failing operation reports a `LinkError`.  An error keeps its cause as
data; `LinkError.text` is the only place that words it.  Errors fall into two
classes: caller bugs, which fail again when retried, and failures of the link
or the device, which the caller may retry.
-/

namespace InstrumentLink

/-- The longest message body a frame carries. -/
def maxPduSize : Nat := 253

/-- Why an argument was refused. -/
inductive ArgumentCause where
  | emptyConnection
  | endpointIncomplete (connection : String)
  | baudText (baud text : String)
  | shapeText (shape : String)
  | dataBitsText (shape : String)
  | parityText (shape : String)
  | stopBitsText (shape : String)
  | optionWithoutValue (option : String)
  | lineLevelText (key value : String)
  | flowText (value : String)
  | unknownOption (key : String)
  | zeroBaud
  | dataBitsRange (bits : UInt8)
  | stopBitsRange (bits : UInt8)
  | unsupportedDataBits (bits : UInt8)
  | unsupportedStopBits (bits : UInt8)
  | pduFull
  | pduOverflow (held added : Nat)
  | quantityRange (function : FunctionCode) (items : Nat)
  | pduLength (length : Nat)
  | replyOutstanding
  | alreadyOpen (connection : String)
  | openReadOnly (connection : String)
  | emptyWrite
  | emptyRead
  | registrationActive (key : Nat)
  | emptyInterest
  | noRegistration (key : Nat)
  | keyTaken (key : Nat)
  | keyUnknown (key : Nat)
  | noBackend (connection : String)
  | foreignConnection (backend connection : String)
  | other (text : String)
  deriving DecidableEq, Repr

def ArgumentCause.text : ArgumentCause → String
  | emptyConnection => "empty connection string"
  | endpointIncomplete connection =>
      "'" ++ connection ++ "' needs both host and port: tcp-raw/<host>/<port>"
  | baudText baud text => "invalid baud rate '" ++ baud ++ "' in '" ++ text ++ "'"
  | shapeText shape => "frame shape must look like 8n1, got '" ++ shape ++ "'"
  | dataBitsText shape => "invalid data bits in '" ++ shape ++ "'"
  | parityText shape => "invalid parity in '" ++ shape ++ "'"
  | stopBitsText shape => "invalid stop bits in '" ++ shape ++ "'"
  | optionWithoutValue option => "expected key=value, got '" ++ option ++ "'"
  | lineLevelText key value => key ++ "= expects 0 or 1, got '" ++ value ++ "'"
  | flowText value => "flow= expects 0, 1 or 2, got '" ++ value ++ "'"
  | unknownOption key => "unknown serial option '" ++ key ++ "'"
  | zeroBaud => "baud rate must be non-zero"
  | dataBitsRange bits => "data bits must be 5..=8, got " ++ bits.toNat.repr
  | stopBitsRange bits => "stop bits must be 1 or 2, got " ++ bits.toNat.repr
  | unsupportedDataBits bits => "unsupported data bits " ++ bits.toNat.repr
  | unsupportedStopBits bits => "unsupported stop bits " ++ bits.toNat.repr
  | pduFull => "PDU buffer full"
  | pduOverflow held added =>
      "PDU would exceed max size: " ++ held.repr ++ " + " ++ added.repr ++ " > " ++
        maxPduSize.repr
  | quantityRange function items =>
      function.name ++ ": quantity must be 1..=" ++ function.maxQuantity.repr ++ ", got " ++
        items.repr
  | pduLength length => "PDU length must be 1..=" ++ maxPduSize.repr ++ ", got " ++ length.repr
  | replyOutstanding => "the previous request's reply has not been received"
  | alreadyOpen connection => "'" ++ connection ++ "' is already open"
  | openReadOnly connection => "'" ++ connection ++ "' is open read-only"
  | emptyWrite => "write buffer is empty"
  | emptyRead => "read buffer is empty"
  | registrationActive key =>
      "handle #" ++ key.repr ++ " already has an active event registration"
  | emptyInterest => "empty interest mask"
  | noRegistration key => "handle #" ++ key.repr ++ " has no event registration"
  | keyTaken key => "handle #" ++ key.repr ++ " is already registered"
  | keyUnknown key => "handle #" ++ key.repr ++ " is not registered"
  | noBackend connection => "no backend available for '" ++ connection ++ "'"
  | foreignConnection backend connection =>
      backend ++ " backend cannot open '" ++ connection ++ "'"
  | other text => text

/-- What the link itself reported. -/
inductive TransportCause where
  | connectFailed (address reason : String)
  | connectionClosed (address : String)
  /-- An action on a serial port, such as opening it or driving a line. -/
  | portAction (action path reason : String)
  | scriptedRefusal
  | reactorRefusal
  | cannotCreate (backend connection : String)
  | other (text : String)
  deriving DecidableEq, Repr

def TransportCause.text : TransportCause → String
  | connectFailed address reason => "connect to " ++ address ++ " failed: " ++ reason
  | connectionClosed address => address ++ " closed the connection"
  | portAction action path reason => action ++ " " ++ path ++ ": " ++ reason
  | scriptedRefusal => "mock open refused"
  | reactorRefusal => "reactor refused"
  | cannotCreate backend connection => backend ++ " cannot create " ++ connection
  | other text => text

/-- How a reply fails to have the shape its request implies. -/
inductive ProtocolCause where
  | emptyReply
  | exceptionWithoutCode
  | wrongFunction (expected received : UInt8)
  | noByteCount
  | byteCount (declared expected : Nat)
  | dataLength (received expected : Nat)
  | notAnEcho (reply : List UInt8)
  | headerMismatch (reply : List UInt8)
  | echoOfOther
  | frameTooShort (length : Nat)
  | checksum (expected received : UInt16)
  | wrongAddress (received expected : UInt8)
  | replyTooLong (length : Nat)
  | unexpectedKind
  | other (text : String)
  deriving DecidableEq, Repr

def ProtocolCause.text : ProtocolCause → String
  | emptyReply => "empty reply"
  | exceptionWithoutCode => "exception reply without error code"
  | wrongFunction expected received =>
      "expected function 0x" ++ Hex.byte expected ++ ", reply carries 0x" ++ Hex.byte received
  | noByteCount => "reply without byte count"
  | byteCount declared expected =>
      "byte count " ++ declared.repr ++ " does not match the " ++ expected.repr ++
        " bytes requested"
  | dataLength received expected =>
      "reply carries " ++ received.repr ++ " data bytes, expected " ++ expected.repr
  | notAnEcho reply => "write reply is not an echo of the request: " ++ Hex.listing reply
  | headerMismatch reply =>
      "write reply header does not match the request: " ++ Hex.listing reply
  | echoOfOther => "echo reply for a non-echo request"
  | frameTooShort length => "RTU frame too short: " ++ length.repr ++ " bytes"
  | checksum expected received =>
      "CRC mismatch: expected 0x" ++ Hex.word expected ++ ", received 0x" ++ Hex.word received
  | wrongAddress received expected =>
      "reply from address " ++ received.toNat.repr ++ ", expected " ++ expected.toNat.repr
  | replyTooLong length => "reply of " ++ length.repr ++ " bytes exceeds the PDU limit"
  | unexpectedKind => "unexpected reply kind"
  | other text => text

/-- What was waited for when the time ran out. -/
inductive Awaited where
  /-- A write of `total` bytes, `sent` of which were accepted. -/
  | writing (total sent : Nat)
  /-- A named part of a reply, `total` bytes long, `received` of which arrived. -/
  | reading (part : String) (received total : Nat)
  | other (text : String)
  deriving DecidableEq, Repr

def Awaited.text : Awaited → String
  | writing total sent =>
      "write of " ++ total.repr ++ " bytes (" ++ sent.repr ++ " sent)"
  | reading part received total =>
      part ++ " (" ++ received.repr ++ " of " ++ total.repr ++ " bytes)"
  | other text => text

inductive LinkError where
  /-- The caller passed something unusable. -/
  | argument (cause : ArgumentCause)
  /-- An operation that needs an open link. -/
  | notOpen (operation : String)
  /-- The link could not be opened or broke. -/
  | transport (cause : TransportCause)
  /-- The operating system reported a failure. -/
  | inputOutput (message : String)
  /-- The reply does not have the shape the request implies. -/
  | protocol (cause : ProtocolCause)
  /-- The device answered with an exception. -/
  | device (function : UInt8) (code : ExceptionCode)
  /-- No progress within the allowed milliseconds. -/
  | timeout (awaited : Awaited) (limit : Nat)
  /-- A capability the backend does not have. -/
  | unsupported (operation backend : String)
  /-- The link kept answering at once with nothing, more often than it had
  announced; see `Transport.patience`. -/
  | stalled (operation : String)
  deriving DecidableEq, Repr

/-- What the caller can make of an error. -/
inductive ErrorClass where
  /-- A caller bug: the same call fails again. -/
  | argument
  /-- A failure of the link or the device: the call may be retried. -/
  | recoverable
  deriving DecidableEq, Repr

namespace LinkError

def text : LinkError → String
  | argument cause => "Invalid argument: " ++ cause.text
  | notOpen operation => "Transport handle is not open: " ++ operation
  | transport cause => "Transport error: " ++ cause.text
  | inputOutput message => "I/O error: " ++ message
  | protocol cause => "Protocol error: " ++ cause.text
  | device function code =>
      "Device error on function 0x" ++ Hex.byte function ++ ": " ++ code.text
  | timeout awaited limit =>
      "Timeout during " ++ awaited.text ++ " after " ++ limit.repr ++ "ms"
  | unsupported operation backend =>
      operation ++ " is not supported by the " ++ backend ++ " backend"
  | stalled operation => "Link stalled during " ++ operation

def errorClass : LinkError → ErrorClass
  | argument _ => .argument
  | notOpen _ => .argument
  | _ => .recoverable

def isTimeout : LinkError → Bool
  | timeout _ _ => true
  | _ => false

def exceptionCode? : LinkError → Option ExceptionCode
  | device _ code => some code
  | _ => none

end LinkError

end InstrumentLink
