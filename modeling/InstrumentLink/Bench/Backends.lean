import InstrumentLink.Backend
import InstrumentLink.Bench.Basic

/-!
# Backends of the bench

The scripted backend serves every connection with the one scripted link and
lists the resources it is given.  Network streams and serial ports are created
anew for every handle.
-/

namespace InstrumentLink.Rig

/-- Meets the next fault of an operation that works without the bench. -/
def meetOnly (point : FaultPoint) : LinkM Rig Unit := do
  let _ ← Faulty.meet Bench.sleep point

/-- Serves every connection with the scripted link. -/
def scriptedBackend (resources : List Resource) : Backend Rig where
  name := Scripted.backendName
  accepts _ := true
  create _ := do
    meetOnly .create
    return faulty Bench.scriptedTransport
  enumerate := do
    meetOnly .enumerate
    return resources
  findByIdentity vendor product := do
    meetOnly .findByIdentity
    return resources.filter fun resource => resource.identity == some (vendor, product)

/-- Serves network connections; `faults` tells whether its sockets meet
faults. -/
def networkBackend (faults : Bool) : Backend Rig where
  name := Connection.tcpName
  accepts connection :=
    match connection with
    | .tcp _ _ => true
    | .serial _ => false
  create connection := do
    match connection with
    | .tcp host service =>
        let index := (← get).world.sockets.length
        modify fun rig =>
          rig.adjust fun bench => { bench with sockets := bench.sockets ++ [false] }
        return equip faults (Bench.socketTransport index host service)
    | .serial path =>
        throw (.argument (.foreignConnection Connection.tcpName (Connection.serial path).text))

/-- Serves serial devices, none of which is listed; `faults` tells whether its
ports meet faults. -/
def serialBackend (faults : Bool) : Backend Rig where
  name := Connection.serialName
  accepts connection :=
    match connection with
    | .serial _ => true
    | .tcp _ _ => false
  create connection := do
    match connection with
    | .serial path =>
        let index := (← get).world.ports.length
        modify fun rig =>
          rig.adjust fun bench => { bench with ports := bench.ports ++ [false] }
        return equip faults (Bench.portTransport index path)
    | .tcp host service =>
        throw (.argument
          (.foreignConnection Connection.serialName (Connection.tcp host service).text))
  enumerate := return []
  findByIdentity _ _ := return []

/-- Accepts the connections whose text starts in a given way, and then cannot
create them. -/
def inertBackend (name start : String) : Backend Rig where
  name := name
  accepts connection := start.toList.isPrefixOf connection.text.toList
  create connection := throw (.transport (.cannotCreate name connection.text))

def standardBackends : List (Backend Rig) := [serialBackend false, networkBackend false]

end InstrumentLink.Rig
