import InstrumentLink.Transport.Basic

/-!
# Faults

A transport can be made to misbehave on purpose.  Every operation has a queue
of faults and meets the next one of its queue, if there is one, before it does
its work: it is delayed, fails without reaching the link, or, if it moves
bytes, is cut short.
-/

namespace InstrumentLink

/-- The operations that can be made to misbehave. -/
inductive FaultPoint where
  | openLink
  | closeLink
  | write
  | read
  | queuedInput
  | flush
  | drain
  | setLineParams
  | setHandshakeLines
  | charFormat
  | eventSource
  | create
  | enumerate
  | findByIdentity
  deriving DecidableEq, Repr

/-- Whether an operation takes time; the others answer at once and cannot be
delayed. -/
def FaultPoint.takesTime : FaultPoint → Bool
  | openLink | closeLink | write | read | queuedInput | flush | drain => true
  | _ => false

structure Fault where
  /-- Milliseconds that pass first. -/
  delay : Nat := 0
  /-- The operation fails without reaching the link. -/
  error : Option LinkError := none
  /-- At most this many bytes are moved. -/
  short : Option Nat := none
  deriving DecidableEq, Repr

/-- A world whose operations meet faults. -/
structure Faulty (σ : Type) where
  world : σ
  /-- The queues of all operations, each in order. -/
  faults : List (FaultPoint × Fault) := []

namespace Faulty

variable {σ α : Type}

/-- Takes the next fault of an operation out of the queues. -/
def next? (point : FaultPoint) :
    List (FaultPoint × Fault) → Option (Fault × List (FaultPoint × Fault))
  | [] => none
  | (queued, fault) :: rest =>
      if queued = point then some (fault, rest)
      else (next? point rest).map fun found => (found.1, (queued, fault) :: found.2)

def schedule (faulty : Faulty σ) (point : FaultPoint) (faults : List Fault) : Faulty σ :=
  { faulty with faults := faulty.faults ++ faults.map fun fault => (point, fault) }

def inner (action : LinkM σ α) : LinkM (Faulty σ) α :=
  LinkM.within Faulty.world (fun faulty world => { faulty with world }) action

/-- Meets the next fault of an operation; the answer is the limit on the bytes
it may move. -/
def meet (sleep : Nat → σ → σ) (point : FaultPoint) : LinkM (Faulty σ) (Option Nat) := do
  let faulty ← get
  match next? point faulty.faults with
  | none => return none
  | some (fault, rest) =>
      let world := if point.takesTime then sleep fault.delay faulty.world else faulty.world
      set ({ world, faults := rest } : Faulty σ)
      match fault.error with
      | some error => throw error
      | none => return fault.short

/-- An operation that meets its faults first. -/
def guarded (sleep : Nat → σ → σ) (point : FaultPoint) (action : LinkM σ α) :
    LinkM (Faulty σ) α := do
  let _ ← meet sleep point
  inner action

/-- An operation that meets its faults first and then looks at the input. -/
def looking (sleep : Nat → σ → σ) (settle : σ → σ) (point : FaultPoint) (action : LinkM σ α) :
    LinkM (Faulty σ) α :=
  guarded sleep point do
    modify settle
    action

end Faulty

/-- A transport whose operations meet faults.  `sleep` lets time pass, and
`settle` is what happens to the world whenever the input of a link is looked
at, be it only to move no byte. -/
def Transport.faulty {σ : Type} (transport : Transport σ) (sleep : Nat → σ → σ)
    (settle : σ → σ) : Transport (Faulty σ) where
  backend := transport.backend
  now faulty := transport.now faulty.world
  patience faulty := transport.patience faulty.world + faulty.faults.length
  openLink mode := Faulty.guarded sleep .openLink (transport.openLink mode)
  closeLink := Faulty.guarded sleep .closeLink transport.closeLink
  write bytes mode := do
    match ← Faulty.meet sleep .write with
    | none => Faulty.inner (transport.write bytes mode)
    | some 0 => return 0
    | some limit => Faulty.inner (transport.write (bytes.take limit) mode)
  read room mode := do
    let limit ← Faulty.meet sleep .read
    Faulty.inner (modify settle)
    match limit with
    | none => Faulty.inner (transport.read room mode)
    | some 0 => return []
    | some limit => Faulty.inner (transport.read (min limit room) mode)
  setLineParams params := Faulty.guarded sleep .setLineParams (transport.setLineParams params)
  setHandshakeLines rts dtr :=
    Faulty.guarded sleep .setHandshakeLines (transport.setHandshakeLines rts dtr)
  charFormat := Faulty.guarded sleep .charFormat transport.charFormat
  queuedInput := Faulty.looking sleep settle .queuedInput transport.queuedInput
  flush := Faulty.looking sleep settle .flush transport.flush
  drain := Faulty.guarded sleep .drain transport.drain
  eventSource := Faulty.guarded sleep .eventSource transport.eventSource
  release faulty := { faulty with world := transport.release faulty.world }

end InstrumentLink
