import InstrumentLink.Bench.Wire
import InstrumentLink.Transport.Faulty
import InstrumentLink.Transport.Scripted

/-!
# Bench

The world that links are tried out in: one scripted link, one wire, the
sockets and serial ports that were created, and one clock for all of them.
Time passes only when a blocking read waits in vain, when a fault delays an
operation, or when it is told to.
-/

namespace InstrumentLink

structure Bench where
  clock : Nat := 0
  script : Scripted.State := {}
  /-- What is put into the input of the scripted link at the first look after its
  time, in the order in which it was announced. -/
  feeds : List Scripted.Arrival := []
  wire : Wire := {}
  /-- Which of the created sockets are connected. -/
  sockets : List Bool := []
  /-- Which of the created serial ports are attached. -/
  ports : List Bool := []
  deriving DecidableEq, Repr

namespace Bench

/-- Lets time pass, as much of it as a single wait can last. -/
def sleep (time : Nat) (bench : Bench) : Bench :=
  { bench with clock := bench.clock + min time longestWait }

/-- The scripted link, on the clock of the bench. -/
def clockedScript (bench : Bench) : Scripted.State := { bench.script with clock := bench.clock }

def setScript (bench : Bench) (script : Scripted.State) : Bench :=
  { bench with script, clock := script.clock }

/-- The wire, on the clock of the bench. -/
def clockedWire (bench : Bench) : Wire := { bench.wire with clock := bench.clock }

def setWire (bench : Bench) (wire : Wire) : Bench := { bench with wire, clock := wire.clock }

/-- What happens whenever the input of a link is looked at: the scripted link is
fed with everything that is due. -/
def settle (bench : Bench) : Bench :=
  let due := bench.feeds.filter fun feed => feed.time ≤ bench.clock
  { bench with
    script := due.foldl (fun script feed => script.push feed.bytes) bench.script
    feeds := bench.feeds.filter fun feed => bench.clock < feed.time }

/-- A created socket, with the wire as its network. -/
def socket (index : Nat) (bench : Bench) : Socket Wire :=
  { connected := bench.sockets.getD index false, world := bench.clockedWire }

def setSocket (index : Nat) (bench : Bench) (socket : Socket Wire) : Bench :=
  { bench.setWire socket.world with sockets := bench.sockets.set index socket.connected }

/-- A created serial port, with the wire as its device. -/
def port (index : Nat) (bench : Bench) : SerialPort Wire :=
  { attached := bench.ports.getD index false, world := bench.clockedWire }

def setPort (index : Nat) (bench : Bench) (port : SerialPort Wire) : Bench :=
  { bench.setWire port.world with ports := bench.ports.set index port.attached }

/-- The scripted link as a transport of the bench. -/
def scriptedTransport : Transport Bench := Scripted.transport.within clockedScript setScript

def socketTransport (index : Nat) (host service : String) : Transport Bench :=
  (Socket.transport Wire.network host service).within (socket index) (setSocket index)

def portTransport (index : Nat) (path : String) : Transport Bench :=
  (SerialPort.transport Wire.portSystem path).within (port index) (setPort index)

end Bench

/-- A bench whose operations can be made to misbehave. -/
abbrev Rig : Type := Faulty Bench

namespace Rig

def clock (rig : Rig) : Nat := rig.world.clock

def adjust (rig : Rig) (change : Bench → Bench) : Rig :=
  { rig with world := change rig.world }

/-- A transport of the bench that meets faults. -/
def faulty (transport : Transport Bench) : Transport Rig :=
  transport.faulty Bench.sleep Bench.settle

/-- A transport of the bench that meets none. -/
def faultless (transport : Transport Bench) : Transport Rig :=
  transport.within Faulty.world fun rig world => { rig with world }

def equip (faults : Bool) (transport : Transport Bench) : Transport Rig :=
  if faults then faulty transport else faultless transport

end Rig

end InstrumentLink
