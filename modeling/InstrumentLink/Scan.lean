import InstrumentLink.Backend
import InstrumentLink.Device

/-!
# Scan

A scan looks for devices: every candidate is opened, configured, probed and
closed again, one after the other.  A candidate that cannot be opened is
skipped, and one that cannot be configured is closed without a probe.  Either
way its handle is given up before the next one is made.
-/

namespace InstrumentLink

/-- What to look at and how to talk to it. -/
structure ScanOptions where
  /-- Looks at this connection only, instead of all known resources. -/
  connection : Option Connection := none
  /-- Line parameters applied before the probe. -/
  params : Option LineParams := none
  config : LinkConfig := {}
  deriving DecidableEq, Repr

/-- A handshake with the device behind a candidate, with a memory `π` of its
own.  It always comes to a verdict. -/
abbrev Probe (σ π : Type) : Type :=
  Transport σ → Attached σ → π → Bool × Attached σ × π

/-- What a scan carries from candidate to candidate. -/
structure ScanState (σ π : Type) where
  world : σ
  memory : π
  /-- What was shown of the log so far. -/
  log : List LogLine := []

namespace Scan

variable {σ π : Type}

def explicit (connection : Connection) : Resource :=
  { connection, description := "explicit connection", backend := connection.backendName }

/-- The candidates, in the order in which they are visited. -/
def candidates (backends : List (Backend σ)) (options : ScanOptions) :
    LinkM σ (List Resource) :=
  match options.connection with
  | some connection => return [explicit connection]
  | none => Backend.enumerateAll backends

def configure (transport : Transport σ) (options : ScanOptions) :
    LinkM (Station σ) Bool := do
  match options.params with
  | none => return true
  | some params =>
      match ← LinkM.attempt (Handle.setLineParams transport params) with
      | .ok _ => return true
      | .error error =>
          Station.report (.cannotConfigure (← get).handle.connection error)
          return false

/-- Configures, probes and closes an open candidate; the answer is the verdict
of the probe, or `false` if it was not configured. -/
def examine (options : ScanOptions) (probe : Probe σ π) (transport : Transport σ) :
    LinkM (Station σ × π) Bool := do
  let configured ← LinkM.within Prod.fst (fun both station => (station, both.2))
    (configure transport options)
  let (station, memory) ← get
  let (answered, station, memory) :=
    if configured then
      let (verdict, attached, memory) :=
        probe transport { device := { config := options.config }, station } memory
      (verdict, attached.station, memory)
    else (false, station, memory)
  set (station, memory)
  let _ ← LinkM.attempt
    (LinkM.within Prod.fst (fun both station => (station, both.2)) (Handle.closeLink transport))
  if answered then
    modify fun both =>
      ({ both.1 with log := both.1.log ++ [.deviceFound both.1.handle.connection] }, both.2)
  return answered

def visit (backends : List (Backend σ)) (options : ScanOptions) (probe : Probe σ π)
    (resource : Resource) (state : ScanState σ π) : Bool × ScanState σ π :=
  match (Backend.handleFor backends 0 resource.connection).outcome state.world with
  | (.error _, world) => (false, { state with world })
  | (.ok link, world) =>
      match (Handle.openLink link.transport .readWrite).outcome
          { handle := link.handle, world, log := state.log } with
      | (.error _, station) =>
          let (_, world) := station.handle.drop link.transport station.world
          (false, { state with world, log := station.log })
      | (.ok _, station) =>
          match (examine options probe link.transport).outcome (station, state.memory) with
          | (result, station, memory) =>
              let (_, world) := station.handle.drop link.transport station.world
              (result.toOption.getD false,
                { world, memory, log := station.log.filter LogLine.isShown })

/-- Visits candidates in order and keeps those that answered. -/
def visitAll (backends : List (Backend σ)) (options : ScanOptions) (probe : Probe σ π) :
    List Resource → ScanState σ π → List Resource × ScanState σ π
  | [], state => ([], state)
  | resource :: rest, state =>
      let (answered, state) := visit backends options probe resource state
      let (found, state) := visitAll backends options probe rest state
      (if answered then resource :: found else found, state)

end Scan

/-- Probes every candidate and returns those that answered.  It fails only if
the candidates cannot be listed. -/
def scan {σ π : Type} (backends : List (Backend σ)) (options : ScanOptions)
    (probe : Probe σ π) (state : ScanState σ π) :
    Except LinkError (List Resource) × ScanState σ π :=
  match (Scan.candidates backends options).outcome state.world with
  | (.error error, world) => (.error error, { state with world })
  | (.ok resources, world) =>
      let (found, state) := Scan.visitAll backends options probe resources { state with world }
      (.ok found, state)

end InstrumentLink
