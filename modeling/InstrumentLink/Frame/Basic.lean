import InstrumentLink.Error
import InstrumentLink.Frame.Checksum

/-!
# Frames

A frame is the device address, the message body and the checksum of both, the
less significant byte of the checksum first.
-/

namespace InstrumentLink.Frame

/-- The bytes a frame adds to its message body. -/
def overhead : Nat := 3

/-- The checksum as it stands on the wire. -/
def trailer (body : List UInt8) : List UInt8 :=
  [(checksum body).toUInt8, (checksum body >>> 8).toUInt8]

def encode (address : UInt8) (pdu : List UInt8) : Except LinkError (List UInt8) :=
  if pdu.length = 0 ∨ maxPduSize < pdu.length then .error (.argument (.pduLength pdu.length))
  else .ok (address :: pdu ++ trailer (address :: pdu))

/-- Compares a received trailer, less significant byte first, with the
checksum of what it follows. -/
def verify (body : List UInt8) (low high : UInt8) : Except LinkError Unit :=
  let received : UInt16 := low.toUInt16 ||| (high.toUInt16 <<< 8)
  if checksum body ≠ received then .error (.protocol (.checksum (checksum body) received))
  else .ok ()

/-- The address and the message body of a complete frame. -/
def decode (frame : List UInt8) : Except LinkError (UInt8 × List UInt8) :=
  let body := frame.take (frame.length - 2)
  match body, frame.drop (frame.length - 2) with
  | address :: first :: rest, [low, high] => do
      verify body low high
      return (address, first :: rest)
  | _, _ => .error (.protocol (.frameTooShort frame.length))

end InstrumentLink.Frame
