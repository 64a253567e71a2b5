import InstrumentLink.Bench.Basic
import InstrumentLink.Line.Text

/-!
# Preparing the bench

What can be arranged on a bench before and between the operations of a link:
scripted replies, bytes that arrive now or later, and faults.
-/

namespace InstrumentLink

inductive Preparation where
  | expect (request reply : List UInt8)
  | replyNext (reply : List UInt8)
  | push (bytes : List UInt8)
  | chunk (size : Nat)
  | refuseOpen
  | arrive (time : Nat) (bytes : List UInt8)
  | faults (point : FaultPoint) (faults : List Fault)
  deriving DecidableEq, Repr

namespace Preparation

def onScript (change : Scripted.State → Scripted.State) (rig : Rig) : Rig :=
  rig.adjust fun bench => { bench with script := change bench.script }

def apply (rig : Rig) : Preparation → Rig
  | expect request reply => onScript (·.schedule { request := some request, reply }) rig
  | replyNext reply => onScript (·.schedule { request := none, reply }) rig
  | push bytes => onScript (·.push bytes) rig
  | chunk size => onScript (·.setChunk size) rig
  | refuseOpen => onScript (fun state => { state with refusesOpen := true }) rig
  | arrive time bytes =>
      rig.adjust fun bench => { bench with feeds := bench.feeds ++ [{ time, bytes }] }
  | faults point queue => Faulty.schedule rig point queue

end Preparation

/-- Line parameters, as text or spelled out. -/
inductive ParamsSource where
  | text (text : String)
  | params (params : LineParams)
  deriving DecidableEq, Repr

def ParamsSource.resolve : ParamsSource → Except LinkError LineParams
  | text written => LineParams.parse written
  | params given => .ok given

end InstrumentLink
