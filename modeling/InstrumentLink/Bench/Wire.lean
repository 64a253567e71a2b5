import InstrumentLink.Bench.Address
import InstrumentLink.Bench.Path
import InstrumentLink.Transport.Socket
import InstrumentLink.Transport.SerialPort

/-!
# Wire

A two-way byte stream whose far end is in the hands of whoever runs the bench.
It serves as a network connection and as a terminal line.  Everything that is
written to it is taken at once; a read that cannot be filled waits out its
limit.  A terminal line whose far end is taken away is hung up: unread input is
gone, and nothing but the end of the stream is left of it.
-/

namespace InstrumentLink

/-- Whether the address of a wire answers. -/
inductive Reach where
  /-- Every connection is made. -/
  | connected
  /-- The far end refuses. -/
  | refused
  /-- There is no way to the far end. -/
  | unreachable
  deriving DecidableEq, Repr

structure Wire where
  clock : Nat := 0
  /-- What polls for input will find. -/
  inbound : List Stream.Incoming := []
  /-- Bytes on their way to the far end. -/
  outbound : List UInt8 := []
  /-- The far end is in place. -/
  farOpen : Bool := false
  /-- The near end is in place. -/
  nearOpen : Bool := false
  /-- Address under which the wire is a network connection, if it is one. -/
  address : Option String := none
  reach : Reach := .unreachable
  /-- Path under which the wire is a terminal line, if it is one. -/
  terminal : Option String := none
  /-- Settings of the terminal line. -/
  baud : UInt32 := 9600
  stopBits : UInt8 := 1
  deriving DecidableEq, Repr

namespace Wire

/-- The bytes that are ready, up to the end of the stream. -/
def ready : List Stream.Incoming → Nat
  | .data bytes :: later => bytes.length + ready later
  | _ => 0

/-- What polls find once the ready bytes are gone. -/
def withoutReady : List Stream.Incoming → List Stream.Incoming
  | .data _ :: later => withoutReady later
  | polls => polls

def receive (room : Nat) (mode : IoMode) : EStateM Stream.Error Wire (List UInt8) := fun wire =>
  let ended := Stream.read mode wire.clock (List.replicate room 0) (wire.inbound.map (.mk 0))
  let wire := { wire with inbound := ended.later.map Stream.Due.thing, clock := ended.clock }
  match ended.result with
  | .ok count => .ok (ended.buffer.take count) wire
  | .error error => .error error wire

def transmit (bytes : List UInt8) (mode : IoMode) : EStateM Stream.Error Wire Nat := fun wire =>
  let ended := Stream.write mode wire.clock bytes [⟨0, .room bytes.length⟩]
  match ended.result with
  | .ok count =>
      .ok count
        { wire with outbound := wire.outbound ++ ended.buffer.take count, clock := ended.clock }
  | .error error => .error error wire

def channel : Channel Wire where
  now := clock
  receive := receive
  transmit := transmit
  drain := pure ()

def connect (address : String) : EStateM String Wire Unit := fun wire =>
  if wire.address ≠ some address then .error (Address.obstacle address) wire
  else
    match wire.reach with
    | .connected =>
        .ok () { wire with inbound := [], outbound := [], farOpen := true, nearOpen := true }
    | .refused => .error "Connection refused (os error 111)" wire
    | .unreachable => .error "Network is unreachable (os error 101)" wire

/-- The wire as the only address of a network. -/
def network : Network Wire where
  toChannel := channel
  connect := connect
  shutdown wire := { wire with nearOpen := false }
  peek window := fun wire => .ok (min window (ready wire.inbound)) wire
  discard := modify fun wire => { wire with inbound := withoutReady wire.inbound }
  eventSource _ := 3

/-- Whether the wire is a terminal line without a far end. -/
def hungUp (wire : Wire) : Bool := wire.terminal.isSome && !wire.farOpen

/-- A terminal operation, which fails once the line is hung up. -/
def onTerminal {α : Type} (operation : Wire → α × Wire) : EStateM String Wire α := fun wire =>
  if wire.hungUp then .error "I/O error" wire
  else .ok (operation wire).1 (operation wire).2

/-- A transfer to a terminal line, which fails once the line is hung up. -/
def towardsTerminal {α : Type} (operation : EStateM Stream.Error Wire α) :
    EStateM Stream.Error Wire α := fun wire =>
  if wire.hungUp then .error ⟨.other, "Input/output error (os error 5)"⟩ wire
  else operation wire

/-- A handshake line, which a terminal line does not have. -/
def noHandshakeLine (_ : Bool) : EStateM String Wire Unit := do
  onTerminal fun wire => ((), wire)
  throw "Not a typewriter"

/-- The wire as the only serial device of a system.  Whoever has a terminal line
open has it alone.  The line takes any data bits and parity but keeps to eight
and none. -/
def portSystem : PortSystem Wire where
  now := clock
  receive := receive
  transmit bytes mode := towardsTerminal (transmit bytes mode)
  drain := pure ()
  openPort path := fun wire =>
    if wire.terminal ≠ some path ∨ !wire.farOpen then .error (Path.obstacle path) wire
    else if wire.nearOpen then .error "Device or resource busy" wire
    else .ok () { wire with nearOpen := true, baud := 9600, stopBits := 1 }
  closePort wire := { wire with nearOpen := false }
  setBaud baud := onTerminal fun wire => ((), { wire with baud })
  setDataBits _ := onTerminal fun wire => ((), wire)
  setParity _ := onTerminal fun wire => ((), wire)
  setStopBits stopBits := onTerminal fun wire => ((), { wire with stopBits })
  setFlow _ := onTerminal fun wire => ((), wire)
  driveRts := noHandshakeLine
  driveDtr := noHandshakeLine
  format := onTerminal fun wire => (.ofShape wire.baud 8 false wire.stopBits, wire)
  queued := onTerminal fun wire => (ready wire.inbound, wire)
  clearInput := onTerminal fun wire =>
    ((), { wire with inbound := withoutReady wire.inbound })
  eventSource _ := 3

def farSend (wire : Wire) (bytes : List UInt8) : Option Wire :=
  if !wire.farOpen then none
  else if bytes = [] then some wire
  else some { wire with inbound := wire.inbound ++ [.data bytes] }

def farReceive (wire : Wire) (count : Nat) : Option (List UInt8 × Wire) :=
  if wire.farOpen then
    some (wire.outbound.take count, { wire with outbound := wire.outbound.drop count })
  else none

def farClose (wire : Wire) : Wire :=
  if !wire.farOpen then wire
  else if wire.terminal.isSome then { wire with farOpen := false, inbound := [.finished] }
  else { wire with farOpen := false, inbound := wire.inbound ++ [.finished] }

/-- Whether the far end, if it is in place, sees that the near end is gone. -/
def farSeesEnd (wire : Wire) : Option Bool :=
  if wire.farOpen then some !wire.nearOpen else none

end Wire

end InstrumentLink
