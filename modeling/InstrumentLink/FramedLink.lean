import InstrumentLink.Frame.Basic
import InstrumentLink.Handle

/-!
# Framed link

Requests go out as whole frames.  Replies come in part by part, each part
exactly as long as asked for: a part fails once no byte has arrived for the
read timeout, and every byte that arrives restarts that window.
-/

namespace InstrumentLink

/-- Which device is spoken to and how long the link is waited for. -/
structure LinkConfig where
  address : UInt8 := 1
  /-- Longest silence inside a reply, in milliseconds. -/
  readTimeout : Nat := 1000
  /-- Longest time for handing over a request, in milliseconds. -/
  writeTimeout : Nat := 1000
  deriving DecidableEq, Repr

/-- Wider windows, for radio modems and long cables. -/
def LinkConfig.slow : LinkConfig := { readTimeout := 3000, writeTimeout := 3000 }

namespace FramedLink

open Station

variable {σ : Type}

def sendPdu (transport : Transport σ) (config : LinkConfig) (pdu : List UInt8) :
    LinkM (Station σ) Unit := do
  let frame ← LinkM.ofExcept (Frame.encode config.address pdu)
  Handle.writeAll transport frame config.writeTimeout

/-- What arrived of a part, and what stopped it from being complete. -/
structure Received where
  bytes : List UInt8
  failure : Option LinkError := none
  deriving DecidableEq, Repr

/-- Longest single read while a reply is awaited, in milliseconds. -/
def pollInterval : Nat := 10

/-- Reads until `got` is `total` bytes long or nothing has arrived for the
timeout; `since` is when the last byte arrived.  `calls` bounds the number of
reads. -/
def gather (transport : Transport σ) (timeout : Nat) (part : String) (total : Nat) :
    (calls since : Nat) → List UInt8 → LinkM (Station σ) Received
  | calls, since, got =>
      if total ≤ got.length then return { bytes := got }
      else
        match calls with
        | 0 => return { bytes := got, failure := some (.stalled part) }
        | calls + 1 => do
            let result ← LinkM.attempt
              (Handle.read transport (total - got.length) (.blocking (min pollInterval timeout)))
            let time := transport.now (← get).world
            match result with
            | .error error => return { bytes := got, failure := some error }
            | .ok [] =>
                if timeout ≤ time - since then
                  return { bytes := got
                           failure := some (.timeout (.reading part got.length total) timeout) }
                else gather transport timeout part total calls since got
            | .ok (first :: more) =>
                gather transport timeout part total calls time (got ++ first :: more)

/-- Reads a part of `total` bytes; what arrived is kept beside a failure. -/
def receivePart (transport : Transport σ) (timeout : Nat) (part : String) (total : Nat) :
    LinkM (Station σ) Received := do
  let world := (← get).world
  gather transport timeout part total
    ((total + 1) * (timeout + 1) + transport.patience world) (transport.now world) []

def readExact (transport : Transport σ) (timeout : Nat) (part : String) (total : Nat) :
    LinkM (Station σ) (List UInt8) := do
  let received ← receivePart transport timeout part total
  match received.failure with
  | some error => throw error
  | none => return received.bytes

def readAddress (transport : Transport σ) (config : LinkConfig) : LinkM (Station σ) UInt8 := do
  let bytes ← readExact transport config.readTimeout "reply address" 1
  let address := bytes.headD 0
  if address ≠ config.address then
    throw (.protocol (.wrongAddress address config.address))
  return address

/-- Reads the checksum that closes a reply frame and checks it against the
message body. -/
def readChecksum (transport : Transport σ) (config : LinkConfig) (pdu : List UInt8) :
    LinkM (Station σ) Unit := do
  let bytes ← readExact transport config.readTimeout "reply CRC" 2
  LinkM.ofExcept
    (Frame.verify (config.address :: pdu) (bytes.headD 0) ((bytes.drop 1).headD 0))

end FramedLink

end InstrumentLink
