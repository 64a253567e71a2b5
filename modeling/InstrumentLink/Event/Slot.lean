import InstrumentLink.Event.Reactor

/-!
# Event registration of a handle

A handle has one registration slot.  A registration is armed while its owner
wants events.  Closing the handle only disarms it: the reactor keeps the entry
until it fires or is replaced, and the callback of a disarmed entry is not run.
-/

namespace InstrumentLink

structure EventSlot where
  /-- The flags of every registration of this slot, shared with its callback. -/
  flags : FlagStore := {}
  /-- The number of the registration that the owner remembers. -/
  record : Option Nat := none
  deriving DecidableEq, Repr

namespace EventSlot

/-- How many registrations were attempted. -/
def issued (slot : EventSlot) : Nat := slot.flags.count

/-- A registration exists and is armed. -/
def isActive (slot : EventSlot) : Bool := slot.record.any slot.flags.isArmed

/-- Disarms the registration without reaching the reactor; the record stays,
so that the owner can still unregister. -/
def disarm (slot : EventSlot) : EventSlot :=
  match slot.record with
  | none => slot
  | some number => { slot with flags := slot.flags.disarm number }

/-- What is asked of the reactor. -/
structure Wish where
  interest : Interest
  timeout : Option Nat := none
  /-- The answers of the callback, in order. -/
  verdicts : List Bool := []
  deriving DecidableEq, Repr

/-- Removes the entry that a disarmed registration left in the reactor, if the
reactor still has it and agrees; the record goes in any case. -/
def clearStale (slot : EventSlot) (reactor : Reactor) (key : Nat) : EventSlot × Reactor :=
  match slot.record with
  | none => (slot, reactor)
  | some number =>
      ({ flags := slot.flags.withdraw number, record := none },
        if slot.flags.isInReactor number then (reactor.unregister key).2 else reactor)

/-- Registers for events under the key of the handle. -/
def register (slot : EventSlot) (reactor : Reactor) (key : Nat) (wish : Wish) :
    Except LinkError Unit × EventSlot × Reactor :=
  if slot.isActive then (.error (.argument (.registrationActive key)), slot, reactor)
  else if wish.interest.isEmpty then (.error (.argument .emptyInterest), slot, reactor)
  else
    let (cleared, swept) := slot.clearStale reactor key
    let number := cleared.issued
    let (result, registered) :=
      swept.register
        { key, registration := number, interest := wish.interest, timeout := wish.timeout,
          verdicts := wish.verdicts }
    let record := match result with
      | .ok _ => some number
      | .error _ => none
    (result, { flags := cleared.flags.allocate, record }, registered)

/-- Ends the registration: it is disarmed whatever the reactor then answers.  A
reactor that has already dropped the entry is not asked. -/
def unregister (slot : EventSlot) (reactor : Reactor) (key : Nat) :
    Except LinkError Unit × EventSlot × Reactor :=
  match slot.record with
  | none => (.error (.argument (.noRegistration key)), slot, reactor)
  | some number =>
      let disarmed := slot.flags.disarm number
      let left : EventSlot := { flags := disarmed.withdraw number, record := none }
      if disarmed.isInReactor number then
        let (result, reactor) := reactor.unregister key
        (result, left, reactor)
      else (.ok (), left, reactor)

end EventSlot

end InstrumentLink
