import InstrumentLink.Event.Slot
import InstrumentLink.Transport.Basic

/-!
# Handles

A handle is one connection over one transport and enforces the rules that all
transports share: input and output only between a successful open and the next
close, no writes on a read-only link, no empty buffers, only line parameters
that a line can carry, and at most one live event registration.
-/

namespace InstrumentLink

/-- The state of one connection.  `key` names it towards a reactor. -/
structure Handle where
  key : Nat
  connection : Connection
  /-- The access it is open with. -/
  mode : Option OpenMode := none
  /-- The parameters of the last successful configuration. -/
  params : Option LineParams := none
  events : EventSlot := {}
  packetLogging : Bool := false
  deriving DecidableEq, Repr

/-- A handle, the world behind its transport, and what was logged so far. -/
structure Station (σ : Type) where
  handle : Handle
  world : σ
  log : List LogLine := []

namespace Station

variable {σ α : Type}

def call (action : LinkM σ α) : LinkM (Station σ) α :=
  LinkM.within Station.world (fun station world => { station with world }) action

def report (line : LogLine) : LinkM (Station σ) Unit :=
  modify fun station => { station with log := station.log ++ [line] }

def reportAll (lines : List LogLine) : LinkM (Station σ) Unit :=
  modify fun station => { station with log := station.log ++ lines }

def setHandle (change : Handle → Handle) : LinkM (Station σ) Unit :=
  modify fun station => { station with handle := change station.handle }

end Station

namespace Handle

open Station

variable {σ : Type}

def isOpen (handle : Handle) : Bool := handle.mode.isSome

/-- The access the handle is open with; a closed handle refuses the operation. -/
def requireOpen (operation : String) : LinkM (Station σ) OpenMode := do
  match (← get).handle.mode with
  | some mode => return mode
  | none => throw (.notOpen operation)

def openLink (transport : Transport σ) (mode : OpenMode) : LinkM (Station σ) Unit := do
  let handle := (← get).handle
  if handle.isOpen then throw (.argument (.alreadyOpen handle.connection.text))
  reportAll (← call (transport.openLink mode))
  setHandle fun handle => { handle with mode := some mode }
  report (.opened handle.connection mode transport.backend)

/-- Closes an open handle.  It is closed, and its event registration disarmed,
even if the transport then fails. -/
def closeLink (transport : Transport σ) : LinkM (Station σ) Unit := do
  let _ ← requireOpen "close"
  setHandle fun handle => { handle with mode := none, events := handle.events.disarm }
  call transport.closeLink
  report (.closed (← get).handle.connection)

/-- Logs a non-empty transfer, if packets are logged at all. -/
def logPacket (transport : Transport σ) (direction : Direction) (bytes : List UInt8) :
    LinkM (Station σ) Unit := do
  if (← get).handle.packetLogging && !bytes.isEmpty then
    report (.packet transport.backend direction bytes)

/-- Writes from the front of `bytes`; the answer is how many were accepted. -/
def write (transport : Transport σ) (bytes : List UInt8) (mode : IoMode) :
    LinkM (Station σ) Nat := do
  let access ← requireOpen "write"
  if !access.isWritable then
    throw (.argument (.openReadOnly (← get).handle.connection.text))
  if bytes.isEmpty then throw (.argument .emptyWrite)
  let accepted ← call (transport.write bytes mode)
  logPacket transport .send (bytes.take accepted)
  return accepted

/-- Writes what is left of `total` bytes by short writes until `deadline`.
`calls` bounds the number of writes. -/
def writeRest (transport : Transport σ) (total limit deadline : Nat) :
    (calls : Nat) → List UInt8 → LinkM (Station σ) Unit
  | calls, rest =>
      if rest.isEmpty then return
      else
        match calls with
        | 0 => throw (.stalled "write")
        | calls + 1 => do
            let remaining := deadline - transport.now (← get).world
            if remaining = 0 then
              throw (.timeout (.writing total (total - rest.length)) limit)
            let accepted ← write transport rest (.blocking remaining)
            writeRest transport total limit deadline calls (rest.drop accepted)

/-- Writes all of `bytes`, by as many short writes as it takes, within `limit`
milliseconds. -/
def writeAll (transport : Transport σ) (bytes : List UInt8) (limit : Nat) :
    LinkM (Station σ) Unit := do
  let world := (← get).world
  writeRest transport bytes.length limit (transport.now world + limit)
    (bytes.length + limit + transport.patience world + 1) bytes

def read (transport : Transport σ) (room : Nat) (mode : IoMode) :
    LinkM (Station σ) (List UInt8) := do
  let _ ← requireOpen "read"
  if room = 0 then throw (.argument .emptyRead)
  let bytes ← call (transport.read room mode)
  logPacket transport .receive bytes
  return bytes

def setLineParams (transport : Transport σ) (params : LineParams) : LinkM (Station σ) Unit := do
  let _ ← requireOpen "set_frame_params"
  LinkM.ofExcept params.validate
  call (transport.setLineParams params)
  report (.paramsApplied (← get).handle.connection params)
  setHandle fun handle => { handle with params := some params }

def setHandshakeLines (transport : Transport σ) (rts dtr : Option Bool) :
    LinkM (Station σ) Unit := do
  let _ ← requireOpen "set_handshake_lines"
  call (transport.setHandshakeLines rts dtr)

def charFormat (transport : Transport σ) : LinkM (Station σ) CharFormat := do
  let _ ← requireOpen "frame_format"
  call transport.charFormat

/-- Milliseconds added to every transfer estimate. -/
def transferMargin : Nat := 10

/-- Time that `bytes` characters take on the wire, plus a margin; a link that
cannot tell its format is taken to have the fallback format. -/
def transferTimeout? (transport : Transport σ) (bytes : Nat) :
    LinkM (Station σ) (Option Nat) := do
  let format := match ← LinkM.attempt (charFormat transport) with
    | .ok format => format
    | .error _ => .fallback
  return (format.transferTime? bytes).map (· + transferMargin)

/-- Bytes received but not read yet; nothing when closed or when the transport
cannot tell. -/
def queuedInput (transport : Transport σ) : LinkM (Station σ) Nat := do
  if (← get).handle.isOpen then
    match ← LinkM.attempt (call transport.queuedInput) with
    | .ok count => return count
    | .error error =>
        report (.queueUnknown (← get).handle.connection error)
        return 0
  else return 0

def flush (transport : Transport σ) : LinkM (Station σ) Unit := do
  let _ ← requireOpen "flush"
  call transport.flush

def drain (transport : Transport σ) : LinkM (Station σ) Unit := do
  let _ ← requireOpen "drain"
  call transport.drain

/-- What an event loop waits on, while the handle is open. -/
def eventSource (transport : Transport σ) : LinkM (Station σ) Nat := do
  let _ ← requireOpen "register_for_events"
  call transport.eventSource

/-- Hands the link to an event loop. -/
def registerForEvents (transport : Transport σ) (wish : EventSlot.Wish) :
    LinkM (Station σ × Reactor) Unit := do
  let _ ← LinkM.within Prod.fst (fun both station => (station, both.2)) (eventSource transport)
  let (station, reactor) ← get
  let (result, events, reactor) :=
    station.handle.events.register reactor station.handle.key wish
  set ({ station with handle := { station.handle with events } }, reactor)
  LinkM.ofExcept result

/-- Takes the link back from the event loop, open or not. -/
def unregisterFromEvents : LinkM (Station σ × Reactor) Unit := do
  let (station, reactor) ← get
  let (result, events, reactor) :=
    station.handle.events.unregister reactor station.handle.key
  set ({ station with handle := { station.handle with events } }, reactor)
  LinkM.ofExcept result

def hasRegistration (handle : Handle) : Bool := handle.events.isActive

/-- The handle with other contents of the flags that it shares with its callback. -/
def withFlags (handle : Handle) (flags : FlagStore) : Handle :=
  { handle with events := { handle.events with flags } }

/-- The flags that a dropped handle leaves to its callback, which is disarmed. -/
def flagsLeft (handle : Handle) : FlagStore := handle.events.disarm.flags

/-- Gives the handle up, and its transport with it.  What remains are the flags that
its callback has, and the world. -/
def drop (handle : Handle) (transport : Transport σ) (world : σ) : FlagStore × σ :=
  (handle.flagsLeft, transport.release world)

end Handle

end InstrumentLink
