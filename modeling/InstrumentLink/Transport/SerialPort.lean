import InstrumentLink.Transport.Stream

/-!
# Serial ports

A serial device of the operating system.  Opening it leaves the line as the
system sets it up; line parameters are applied one by one, in a fixed order,
and the handshake lines last, so a failure leaves the earlier ones applied.
-/

namespace InstrumentLink

/-- What the operating system offers for one serial device.  A failure gives
the reason. -/
structure PortSystem (σ : Type) extends Channel σ where
  openPort : String → EStateM String σ Unit
  closePort : σ → σ
  setBaud : UInt32 → EStateM String σ Unit
  setDataBits : UInt8 → EStateM String σ Unit
  setParity : Parity → EStateM String σ Unit
  setStopBits : UInt8 → EStateM String σ Unit
  setFlow : FlowControl → EStateM String σ Unit
  driveRts : Bool → EStateM String σ Unit
  driveDtr : Bool → EStateM String σ Unit
  /-- The format in force. -/
  format : EStateM String σ CharFormat
  queued : EStateM String σ Nat
  clearInput : EStateM String σ Unit
  eventSource : σ → Nat

/-- A serial port of a system. -/
structure SerialPort (σ : Type) where
  attached : Bool := false
  world : σ

namespace SerialPort

variable {σ α : Type}

def onSystem (action : LinkM σ α) : LinkM (SerialPort σ) α :=
  LinkM.within SerialPort.world (fun port world => { port with world }) action

/-- Runs an operation that needs the port. -/
def onPort (action : LinkM σ α) : LinkM (SerialPort σ) α := do
  if (← get).attached then onSystem action else throw (.notOpen "serial port access")

/-- A system operation, with its failures reported as those of an action on a
path. -/
def acting (action path : String) (operation : EStateM String σ α) : LinkM σ α :=
  LinkM.rewording (fun reason => .transport (.portAction action path reason)) operation

def transferring (operation : EStateM Stream.Error σ α) : LinkM σ α :=
  LinkM.rewording (fun error => .inputOutput error.message) operation

/-- Drives the handshake lines that are given a level. -/
def driveLines (system : PortSystem σ) (path : String) (rts dtr : Option Bool) :
    LinkM σ Unit := do
  match rts with
  | some level => acting "drive RTS on" path (system.driveRts level)
  | none => pure ()
  match dtr with
  | some level => acting "drive DTR on" path (system.driveDtr level)
  | none => pure ()

/-- Applies all line parameters. -/
def applyParams (system : PortSystem σ) (path : String) (params : LineParams) :
    LinkM σ Unit := do
  acting "set baud rate on" path (system.setBaud params.baud)
  acting "set data bits on" path (system.setDataBits params.dataBits)
  acting "set parity on" path (system.setParity params.parity)
  acting "set stop bits on" path (system.setStopBits params.stopBits)
  acting "set flow control on" path (system.setFlow params.flow)
  driveLines system path params.rts params.dtr

/-- Gives up the port, if there is one. -/
def release (system : PortSystem σ) (port : SerialPort σ) : SerialPort σ :=
  if port.attached then { attached := false, world := system.closePort port.world } else port

def transport (system : PortSystem σ) (path : String) : Transport (SerialPort σ) where
  backend := Connection.serialName
  now port := system.now port.world
  openLink mode := do
    onSystem (acting "open" path (system.openPort path))
    modify fun port => { port with attached := true }
    return [.portOpened path mode]
  closeLink := do
    if (← get).attached then modify (release system) else throw (.notOpen "close")
  write bytes mode := onPort (transferring (system.transmit bytes mode))
  read room mode := onPort (transferring (system.receive room mode))
  setLineParams params := do
    if params.dataBits < 5 ∨ 8 < params.dataBits then
      throw (.argument (.unsupportedDataBits params.dataBits))
    if params.stopBits < 1 ∨ 2 < params.stopBits then
      throw (.argument (.unsupportedStopBits params.stopBits))
    onPort (applyParams system path params)
  setHandshakeLines rts dtr := onPort (driveLines system path rts dtr)
  charFormat := onPort (acting "query" path system.format)
  queuedInput := onPort (acting "query input queue of" path system.queued)
  flush := onPort (acting "flush" path system.clearInput)
  drain := onPort (transferring system.drain)
  eventSource := onPort fun world => .ok (system.eventSource world) world
  release := release system

end SerialPort

end InstrumentLink
