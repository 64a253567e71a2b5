import InstrumentLink.FramedLink
import InstrumentLink.Message.Reply

/-!
# Devices

A device answers one request at a time.  A transaction is a request that is
sent and a reply that is accumulated and validated, in one step or split in
two.  The first byte of a reply decides its length: an exception is two bytes
long whatever was requested, and nothing past the expected length is read.  A
reply that breaks off or fails validation leaves its unread bytes discarded.
-/

namespace InstrumentLink

/-- How far the reply to the last request has come. -/
inductive ReplyState where
  | idle
  | awaitingFirstByte
  | awaitingRemainder (expected : Nat)
  | complete
  | timedOut
  deriving DecidableEq, Repr

structure Device where
  config : LinkConfig
  state : ReplyState := .idle
  /-- A request was sent and its reply neither received nor cancelled. -/
  outstanding : Bool := false
  deriving DecidableEq, Repr

structure Attached (σ : Type) where
  device : Device
  station : Station σ

namespace Device

variable {σ α : Type}

def onStation (action : LinkM (Station σ) α) : LinkM (Attached σ) α :=
  LinkM.within Attached.station (fun attached station => { attached with station }) action

def setState (state : ReplyState) : LinkM (Attached σ) Unit :=
  modify fun attached => { attached with device := { attached.device with state } }

def setOutstanding (outstanding : Bool) : LinkM (Attached σ) Unit :=
  modify fun attached => { attached with device := { attached.device with outstanding } }

/-- Validates and transmits a request without waiting for the reply. -/
def send (transport : Transport σ) (request : Request) : LinkM (Attached σ) Unit := do
  let device := (← get).device
  if device.outstanding then throw (.argument .replyOutstanding)
  let pdu ← LinkM.ofExcept request.encode
  onStation (FramedLink.sendPdu transport device.config pdu.bytes)
  setOutstanding true
  setState .awaitingFirstByte

/-- Reads the message body of one reply. -/
def accumulate (transport : Transport σ) (request : Request) : LinkM (Attached σ) Pdu := do
  let timeout := (← get).device.config.readTimeout
  setState .awaitingFirstByte
  let first := (← onStation (FramedLink.readExact transport timeout "reply function code" 1)).headD 0
  let expected := request.replyLength first
  if maxPduSize < expected then throw (.protocol (.replyTooLong expected))
  setState (.awaitingRemainder expected)
  let rest ← onStation (FramedLink.readExact transport timeout "reply data" (expected - 1))
  setState .complete
  LinkM.ofExcept (Pdu.ofBytes (first :: rest))

def readReply (transport : Transport σ) (request : Request) : LinkM (Attached σ) Reply := do
  let config := (← get).device.config
  let _ ← onStation (FramedLink.readAddress transport config)
  let pdu ← accumulate transport request
  onStation (FramedLink.readChecksum transport config pdu.bytes)
  LinkM.ofExcept (request.decodeReply pdu.bytes)

/-- The state after a reply failed for another reason than an exception. -/
def failedState (error : LinkError) : ReplyState :=
  if error.isTimeout then .timedOut else .idle

/-- Accumulates and validates the reply to a request that was sent.  After a
failure the unread bytes of the reply are discarded; an exception is a complete
frame and leaves nothing to discard. -/
def receive (transport : Transport σ) (request : Request) : LinkM (Attached σ) Reply := do
  setOutstanding false
  match ← LinkM.attempt (readReply transport request) with
  | .ok reply => return reply
  | .error (.device function code) => throw (.device function code)
  | .error error =>
      setState (failedState error)
      let _ ← LinkM.attempt (onStation (Handle.flush transport))
      throw error

/-- Gives up on a request that was sent and discards what arrived of its
reply. -/
def cancel (transport : Transport σ) : LinkM (Attached σ) Unit := do
  setOutstanding false
  setState .idle
  onStation (Handle.flush transport)

def transact (transport : Transport σ) (request : Request) : LinkM (Attached σ) Reply := do
  send transport request
  receive transport request

def readCoils (transport : Transport σ) (address count : UInt16) :
    LinkM (Attached σ) (List Bool) := do
  let request ← LinkM.ofExcept (Request.readCoils address count).checked
  match ← transact transport request with
  | .coils values => return values
  | _ => throw (.protocol .unexpectedKind)

def readRegisters (transport : Transport σ) (address count : UInt16) :
    LinkM (Attached σ) (List UInt16) := do
  let request ← LinkM.ofExcept (Request.readRegisters address count).checked
  match ← transact transport request with
  | .registers values => return values
  | _ => throw (.protocol .unexpectedKind)

def writeCoil (transport : Transport σ) (address : UInt16) (value : Bool) :
    LinkM (Attached σ) Unit := do
  match ← transact transport (.writeCoil address value) with
  | .coilWritten _ _ => return
  | _ => throw (.protocol .unexpectedKind)

def writeRegisters (transport : Transport σ) (address : UInt16) (values : List UInt16) :
    LinkM (Attached σ) Unit := do
  let request ← LinkM.ofExcept (Request.writeRegisters address values).checked
  match ← transact transport request with
  | .registersWritten _ _ => return
  | _ => throw (.protocol .unexpectedKind)

end Device

end InstrumentLink
