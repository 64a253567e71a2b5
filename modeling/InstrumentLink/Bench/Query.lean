import InstrumentLink.Bench.Backends
import InstrumentLink.Bench.Script

/-!
# Queries

Questions about a set of backends on the bench: which ones there are, which
resources they know, and what comes of a connection string.
-/

namespace InstrumentLink

inductive Query where
  | prepare (preparation : Preparation)
  | names
  | isEmpty
  | enumerate
  | findByIdentity (vendor product : UInt16)
  /-- Makes a closed handle for a connection string. -/
  | handle (connection : String)
  /-- Makes a handle for a connection string and opens it. -/
  | openLink (connection : String) (mode : OpenMode)
  deriving DecidableEq, Repr

namespace Query

inductive Answer where
  | done
  | names (names : List String)
  | flag (flag : Bool)
  | resources (resources : List Resource)
  | handle (backend : String) (handle : Handle)
  deriving DecidableEq, Repr

def onRig {α : Type} (action : LinkM Rig α) : LinkM (Rig × List LogLine) α :=
  LinkM.within Prod.fst (fun both rig => (rig, both.2)) action

def makeLink (backends : List (Backend Rig)) (text : String) :
    LinkM (Rig × List LogLine) (Link Rig) := do
  let parsed ← LinkM.ofExcept (Connection.parse text)
  modify fun both => (both.1, both.2 ++ parsed.notices text)
  onRig (Backend.handleFor backends 0 parsed.connection)

/-- Answers a query; the log grows by what is reported on the way. -/
def ask (backends : List (Backend Rig)) : Query → LinkM (Rig × List LogLine) Answer
  | prepare preparation => do
      modify fun both => (preparation.apply both.1, both.2)
      return .done
  | names => return .names (backends.map Backend.name)
  | isEmpty => return .flag backends.isEmpty
  | enumerate => return .resources (← onRig (Backend.enumerateAll backends))
  | findByIdentity vendor product =>
      return .resources (← onRig (Backend.findAll backends vendor product))
  | handle text => do
      let link ← makeLink backends text
      return .handle link.transport.backend link.handle
  | openLink text mode => do
      let link ← makeLink backends text
      let (rig, log) ← get
      let (opened, station) :=
        (Handle.openLink link.transport mode).outcome { handle := link.handle, world := rig, log }
      set (station.world, station.log)
      LinkM.ofExcept opened
      return .handle link.transport.backend station.handle

def askAll (backends : List (Backend Rig)) :
    List Query → Rig × List LogLine →
      List (Except LinkError Answer) × (Rig × List LogLine)
  | [], state => ([], state)
  | query :: rest, state =>
      let (answer, state) := (query.ask backends).outcome state
      let (answers, state) := askAll backends rest state
      (answer :: answers, state)

end Query

end InstrumentLink
