import InstrumentLink.Error

/-!
# Operations

An operation answers or fails, and in both cases leaves the state behind on
which it worked: what was done before a failure stays done.
-/

namespace InstrumentLink

/-- An operation on a world `σ` that answers with an `α` or fails. -/
abbrev LinkM (σ α : Type) : Type := EStateM LinkError σ α

namespace LinkM

variable {σ τ α : Type}

/-- Runs an operation on a part of the world. -/
def within (part : σ → τ) (put : σ → τ → σ) (action : LinkM τ α) : LinkM σ α := fun world =>
  match action (part world) with
  | .ok value inner => .ok value (put world inner)
  | .error error inner => .error error (put world inner)

/-- Runs an operation and keeps its failure as a value. -/
def attempt (action : LinkM σ α) : LinkM σ (Except LinkError α) := fun world =>
  match action world with
  | .ok value world => .ok (.ok value) world
  | .error error world => .ok (.error error) world

/-- An answer that was worked out without touching the world. -/
def ofExcept : Except LinkError α → LinkM σ α
  | .ok value => pure value
  | .error error => throw error

/-- The answer and the world of an operation, side by side. -/
def outcome (action : LinkM σ α) (world : σ) : Except LinkError α × σ :=
  match action world with
  | .ok value world => (.ok value, world)
  | .error error world => (.error error, world)

end LinkM

end InstrumentLink
