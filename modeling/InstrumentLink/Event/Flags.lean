/-!
# Flags of registrations

A registration has two flags that its owner shares with the callback it hands to
a reactor.  Neither of them keeps a copy: the owner's record and the reactor's
entry both name the registration by its number, and every load and store goes to
the cell under that number.  A cell outlasts the record, the entry and the owner.
-/

namespace InstrumentLink

/-- The two flags of a registration. -/
structure Registration where
  /-- The owner still wants events. -/
  armed : Bool
  /-- The reactor has not dropped the entry of its own accord. -/
  inReactor : Bool
  deriving DecidableEq, Repr

/-- The flags of all registrations that one owner has made, by number. -/
structure FlagStore where
  cells : List Registration := []
  deriving DecidableEq, Repr

namespace FlagStore

/-- How many registrations have flags; the next one gets this number. -/
def count (flags : FlagStore) : Nat := flags.cells.length

def isArmed (flags : FlagStore) (number : Nat) : Bool :=
  flags.cells[number]?.any Registration.armed

def isInReactor (flags : FlagStore) (number : Nat) : Bool :=
  flags.cells[number]?.any Registration.inReactor

/-- Flags for one more registration, both of them set. -/
def allocate (flags : FlagStore) : FlagStore :=
  ⟨flags.cells ++ [{ armed := true, inReactor := true }]⟩

/-- The owner wants no more events of a registration. -/
def disarm (flags : FlagStore) (number : Nat) : FlagStore :=
  ⟨flags.cells.modify number fun cell => { cell with armed := false }⟩

/-- The reactor is not to be asked for the entry of a registration any more. -/
def withdraw (flags : FlagStore) (number : Nat) : FlagStore :=
  ⟨flags.cells.modify number fun cell => { cell with inReactor := false }⟩

/-- What a callback stores when it asks to be dropped. -/
def clear (flags : FlagStore) (number : Nat) : FlagStore :=
  (flags.disarm number).withdraw number

end FlagStore

end InstrumentLink
