import InstrumentLink.Scan

/-!
# Probes

Handshakes to try on the candidates of a scan.  Each one notes what it saw.
-/

namespace InstrumentLink

inductive ProbeKind where
  | always
  | never
  /-- Closes the handle; the verdict is whether that worked. -/
  | close
  /-- Reads registers, and compares them if values are expected. -/
  | registers (address count : UInt16) (expected : Option (List UInt16))
  /-- Switches a coil. -/
  | coil (address : UInt16) (value : Bool)
  deriving DecidableEq, Repr

/-- What a probe saw of one candidate. -/
structure ProbeNote where
  connection : Connection
  wasOpen : Bool
  address : UInt8
  registers : Option (Except LinkError (List UInt16)) := none
  coil : Option (Except LinkError Unit) := none

namespace ProbeKind

variable {σ : Type}

def run (kind : ProbeKind) : Probe σ (List ProbeNote) := fun transport attached notes =>
  let handle := attached.station.handle
  let note : ProbeNote :=
    { connection := handle.connection, wasOpen := handle.isOpen
      address := attached.device.config.address }
  match kind with
  | always => (true, attached, notes ++ [note])
  | never => (false, attached, notes ++ [note])
  | close =>
      let (result, attached) := (Device.onStation (Handle.closeLink transport)).outcome attached
      (result.isOk, attached, notes ++ [note])
  | registers address count expected =>
      let (result, attached) := (Device.readRegisters transport address count).outcome attached
      let verdict := match result with
        | .ok values => expected.all fun wanted => wanted == values
        | .error _ => false
      (verdict, attached, notes ++ [{ note with registers := some result }])
  | coil address value =>
      let (result, attached) := (Device.writeCoil transport address value).outcome attached
      (result.isOk, attached, notes ++ [{ note with coil := some result }])

end ProbeKind

end InstrumentLink
