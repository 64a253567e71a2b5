import InstrumentLink.Bench.Basic
import InstrumentLink.Device

/-!
# Answers

What an operation on the bench is answered with, as data.
-/

namespace InstrumentLink

inductive Answer where
  | done
  | count (count : Nat)
  | flag (flag : Bool)
  | milliseconds (time : Nat)
  | function (function : FunctionCode)
  | bytes (bytes : List UInt8)
  /-- A read with room for more bytes than arrived, perhaps. -/
  | taken (room : Nat) (bytes : List UInt8)
  | format (format : CharFormat)
  | coils (values : List Bool)
  | registers (values : List UInt16)
  | reply (reply : Reply)
  | handle (backend : String) (handle : Handle)
  | device (config : LinkConfig) (connection : Connection)
  | framed (config : LinkConfig) (connection : Connection)
  | script (state : Scripted.State)
  | reactor (reactor : Reactor) (handles : Nat)
  deriving DecidableEq, Repr

inductive Outcome where
  | answered (answer : Answer)
  | failed (error : LinkError)
  /-- A part of a reply, complete or not. -/
  | part (total : Nat) (received : FramedLink.Received)
  /-- What an entry of the reactor made of an event, and all events delivered
  to its handle so far. -/
  | fired (verdict : Option Bool) (delivered : List Interest)
  /-- There is no request whose reply is awaited. -/
  | noPending
  /-- The handle was dropped. -/
  | noHandle
  /-- The step needs a device or a link on the handle. -/
  | notAttached
  deriving DecidableEq, Repr

def Outcome.ofExcept : Except LinkError Answer → Outcome
  | .ok answer => answered answer
  | .error error => failed error

end InstrumentLink
