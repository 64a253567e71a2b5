import InstrumentLink.Transport.Basic

/-!
# Scripted link

A link without hardware: what it answers is written down beforehand.  Replies
become readable when the request they belong to is written, or at a given time,
or at once, and are read in the order in which they became so.  It keeps a clock
of its own, which moves only when a blocking read waits out its window in silence
or when it is told to.
-/

namespace InstrumentLink.Scripted

/-- A reply that becomes readable with the next write, if that write is the
expected request; without an expected request any write will do. -/
structure Exchange where
  request : Option (List UInt8)
  reply : List UInt8
  deriving DecidableEq, Repr

/-- Whether an exchange answers the given write. -/
def Exchange.answers (exchange : Exchange) (bytes : List UInt8) : Bool :=
  exchange.request.all fun request => request == bytes

structure Arrival where
  time : Nat
  bytes : List UInt8
  deriving DecidableEq, Repr

structure State where
  clock : Nat := 0
  isOpen : Bool := false
  openCount : Nat := 0
  refusesOpen : Bool := false
  script : List Exchange := []
  /-- What is still to arrive, in order of time. -/
  arrivals : List Arrival := []
  /-- Bytes that can be read. -/
  input : List UInt8 := []
  /-- Every buffer written so far. -/
  written : List (List UInt8) := []
  params : Option LineParams := none
  rts : Option Bool := none
  dtr : Option Bool := none
  /-- The most bytes a single read delivers; a limit of none counts as one. -/
  chunk : Option Nat := none
  /-- How many reads delivered anything. -/
  reads : Nat := 0
  deriving DecidableEq, Repr

def backendName : String := "mock"

namespace State

/-- Lets time pass, as much of it as a single wait can last. -/
def sleep (state : State) (time : Nat) : State :=
  { state with clock := state.clock + min time longestWait }

def schedule (state : State) (exchange : Exchange) : State :=
  { state with script := state.script ++ [exchange] }

/-- Makes bytes readable at a given time, behind all that arrives no later. -/
def arrive (state : State) (arrival : Arrival) : State :=
  let (earlier, later) := state.arrivals.span fun other => other.time ≤ arrival.time
  { state with arrivals := earlier ++ arrival :: later }

/-- Moves everything that is due to the readable bytes. -/
def settle (state : State) : State :=
  let due := state.arrivals.filter fun arrival => arrival.time ≤ state.clock
  { state with
    input := state.input ++ due.flatMap Arrival.bytes
    arrivals := state.arrivals.filter fun arrival => state.clock < arrival.time }

/-- Makes bytes readable at once, behind all that is due. -/
def push (state : State) (bytes : List UInt8) : State :=
  { state.settle with input := state.settle.input ++ bytes }

def setChunk (state : State) (size : Nat) : State := { state with chunk := some size }

/-- Records a write.  If the exchange in front answers it, its reply becomes
readable behind all that is due. -/
def accept (state : State) (bytes : List UInt8) : State :=
  let recorded := { state with written := state.written ++ [bytes] }
  match state.script with
  | [] => recorded
  | exchange :: rest =>
      if exchange.answers bytes then { recorded.push exchange.reply with script := rest }
      else recorded

def deliverable (state : State) (room : Nat) : Nat :=
  let limit := match state.chunk with
    | some size => min (max size 1) room
    | none => room
  min limit state.input.length

/-- Takes the first bytes that can be read. -/
def deliver (state : State) (count : Nat) : State :=
  { state with
    input := state.input.drop count
    reads := if 0 < count then state.reads + 1 else state.reads }

end State

/-- Delivers what is there; silence takes the whole window of a blocking read. -/
def read (room : Nat) (mode : IoMode) : LinkM State (List UInt8) := fun state =>
  let settled := state.settle
  let count := settled.deliverable room
  let delivered := settled.deliver count
  match count, mode with
  | 0, .blocking limit => .ok [] (delivered.sleep limit)
  | _, _ => .ok (settled.input.take count) delivered

def transport : Transport State where
  backend := backendName
  now := State.clock
  openLink _ := fun state =>
    if state.refusesOpen then
      .error (.transport .scriptedRefusal) { state with refusesOpen := false }
    else .ok [] { state with isOpen := true, openCount := state.openCount + 1 }
  closeLink := modify fun state => { state with isOpen := false }
  write bytes _ := fun state => .ok bytes.length (state.accept bytes)
  read := read
  setLineParams params := modify fun state => { state with params := some params }
  setHandshakeLines rts dtr := modify fun state => { state with rts, dtr }
  charFormat := do
    match (← get).params with
    | some params => return params.charFormat
    | none => throw (.unsupported "frame_format" backendName)
  queuedInput := fun state => .ok state.settle.input.length state.settle
  flush := modify fun state => { state.settle with input := [] }
  drain := pure ()
  eventSource := pure 0

end InstrumentLink.Scripted
