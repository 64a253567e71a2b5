import InstrumentLink.Text.Hex

/-!
# Exception codes

The reason a device gives when it refuses a request.  Real devices also send
codes outside the standard table, so every byte is a code.
-/

namespace InstrumentLink

inductive ExceptionCode where
  | illegalFunction
  | illegalDataAddress
  | illegalDataValue
  | slaveDeviceFailure
  | acknowledge
  | slaveDeviceBusy
  | memoryParityError
  | gatewayPathUnavailable
  | gatewayTargetFailedToRespond
  /-- A code outside the standard table. -/
  | unlisted (code : UInt8)
  deriving DecidableEq, Repr

namespace ExceptionCode

/-- The code a device puts on the wire. -/
def toByte : ExceptionCode → UInt8
  | illegalFunction => 0x01
  | illegalDataAddress => 0x02
  | illegalDataValue => 0x03
  | slaveDeviceFailure => 0x04
  | acknowledge => 0x05
  | slaveDeviceBusy => 0x06
  | memoryParityError => 0x08
  | gatewayPathUnavailable => 0x0A
  | gatewayTargetFailedToRespond => 0x0B
  | unlisted code => code

def ofByte (byte : UInt8) : ExceptionCode :=
  match byte with
  | 0x01 => illegalFunction
  | 0x02 => illegalDataAddress
  | 0x03 => illegalDataValue
  | 0x04 => slaveDeviceFailure
  | 0x05 => acknowledge
  | 0x06 => slaveDeviceBusy
  | 0x08 => memoryParityError
  | 0x0A => gatewayPathUnavailable
  | 0x0B => gatewayTargetFailedToRespond
  | code => unlisted code

/-- Whether the code stands in the standard table. -/
def isListed : ExceptionCode → Bool
  | unlisted _ => false
  | _ => true

def text : ExceptionCode → String
  | illegalFunction => "ILLEGAL FUNCTION"
  | illegalDataAddress => "ILLEGAL DATA ADDRESS"
  | illegalDataValue => "ILLEGAL DATA VALUE"
  | slaveDeviceFailure => "SLAVE DEVICE FAILURE"
  | acknowledge => "ACKNOWLEDGE"
  | slaveDeviceBusy => "SLAVE DEVICE BUSY"
  | memoryParityError => "MEMORY PARITY ERROR"
  | gatewayPathUnavailable => "GATEWAY PATH UNAVAILABLE"
  | gatewayTargetFailedToRespond => "GATEWAY TARGET DEVICE FAILED TO RESPOND"
  | unlisted code => "unrecognized error code 0x" ++ Hex.byte code

end ExceptionCode

end InstrumentLink
