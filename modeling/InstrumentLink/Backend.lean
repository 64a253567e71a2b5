import InstrumentLink.Handle

/-!
# Backends

A backend makes transports for the connections it accepts and may know which
resources exist.  A set of backends is a list: the first one that accepts a
connection serves it, and queries about resources go to all of them, skipping
exactly those that do not support the query.
-/

namespace InstrumentLink

/-- A link that was found by looking for candidates. -/
structure Resource where
  connection : Connection
  description : String
  backend : String
  /-- Vendor and product number, when the link sits on a bus that has them. -/
  identity : Option (UInt16 × UInt16) := none
  deriving DecidableEq, Repr

structure Backend (σ : Type) where
  name : String
  accepts : Connection → Bool
  /-- Makes a closed transport. -/
  create : Connection → LinkM σ (Transport σ)
  enumerate : LinkM σ (List Resource) := throw (.unsupported "enumerate" name)
  findByIdentity : UInt16 → UInt16 → LinkM σ (List Resource) :=
    fun _ _ => throw (.unsupported "find_by_identity" name)

structure Link (σ : Type) where
  transport : Transport σ
  handle : Handle

namespace Backend

variable {σ : Type}

/-- Joins the answers of all backends in order.  A backend that does not
support the query is passed over; any other failure ends the query. -/
def collect (query : Backend σ → LinkM σ (List Resource)) :
    List (Backend σ) → LinkM σ (List Resource)
  | [] => return []
  | backend :: rest => do
      match ← LinkM.attempt (query backend) with
      | .ok found => return found ++ (← collect query rest)
      | .error (.unsupported _ _) => collect query rest
      | .error error => throw error

def enumerateAll (backends : List (Backend σ)) : LinkM σ (List Resource) :=
  collect Backend.enumerate backends

def findAll (backends : List (Backend σ)) (vendor product : UInt16) :
    LinkM σ (List Resource) :=
  collect (fun backend => backend.findByIdentity vendor product) backends

/-- A closed handle for a connection, served by the first backend that accepts
it.  `key` names the handle towards a reactor. -/
def handleFor (backends : List (Backend σ)) (key : Nat) (connection : Connection) :
    LinkM σ (Link σ) := do
  match backends.find? fun backend => backend.accepts connection with
  | none => throw (.argument (.noBackend connection.text))
  | some backend =>
      return { transport := ← backend.create connection, handle := { key, connection } }

end Backend

end InstrumentLink
