import InstrumentLink.Error
import InstrumentLink.Event.Flags
import InstrumentLink.Event.Interest

/-!
# Event loop

A reactor holds at most one entry for each key and delivers observed
conditions to it.  A delivery runs the owner's callback only while the entry's
registration is armed; the entry stays exactly when the callback ran and asked
to stay.  A reactor can be told to refuse its next registration or removal, and
a refused call changes nothing else.
-/

namespace InstrumentLink

/-- An entry: which registration it belongs to and what the owner's callback
will answer, in order.  A callback with no answers left asks to stay. -/
structure Reactor.Entry where
  key : Nat
  registration : Nat
  interest : Interest
  timeout : Option Nat
  verdicts : List Bool
  deriving DecidableEq, Repr

/-- One run of an owner's callback. -/
structure Reactor.Delivery where
  key : Nat
  registration : Nat
  observed : Interest
  deriving DecidableEq, Repr

structure Reactor where
  entries : List Reactor.Entry := []
  /-- Every run of a callback so far. -/
  deliveries : List Reactor.Delivery := []
  refusesRegister : Bool := false
  refusesRemoval : Bool := false
  deriving DecidableEq, Repr

namespace Reactor

def entry? (reactor : Reactor) (key : Nat) : Option Entry :=
  reactor.entries.find? fun entry => entry.key == key

def without (reactor : Reactor) (key : Nat) : List Entry :=
  reactor.entries.filter fun entry => entry.key != key

def register (reactor : Reactor) (entry : Entry) : Except LinkError Unit × Reactor :=
  if reactor.refusesRegister then
    (.error (.transport .reactorRefusal), { reactor with refusesRegister := false })
  else if (reactor.entry? entry.key).isSome then
    (.error (.argument (.keyTaken entry.key)), reactor)
  else (.ok (), { reactor with entries := reactor.entries ++ [entry] })

def unregister (reactor : Reactor) (key : Nat) : Except LinkError Unit × Reactor :=
  if reactor.refusesRemoval then
    (.error (.transport .reactorRefusal), { reactor with refusesRemoval := false })
  else if (reactor.entry? key).isSome then
    (.ok (), { reactor with entries := reactor.without key })
  else (.error (.argument (.keyUnknown key)), reactor)

def update (reactor : Reactor) (entry : Entry) : Reactor :=
  { reactor with
    entries := reactor.entries.map fun old => if old.key = entry.key then entry else old }

/-- Delivers observed conditions to the entry under a key.  The answer is
whether the entry stayed; there is none without an entry.  `flags` are those that
the entry shares with its owner: an entry that leaves has cleared its own. -/
def fire (reactor : Reactor) (flags : FlagStore) (key : Nat) (observed : Interest) :
    Option Bool × FlagStore × Reactor :=
  match reactor.entry? key with
  | none => (none, flags, reactor)
  | some entry =>
      let called := flags.isArmed entry.registration
      let reactor := if called then
        { reactor with
          deliveries :=
            reactor.deliveries ++ [{ key, registration := entry.registration, observed }] }
        else reactor
      if called && entry.verdicts.headD true then
        (some true, flags, reactor.update { entry with verdicts := entry.verdicts.drop 1 })
      else
        (some false, flags.clear entry.registration,
          { reactor with entries := reactor.without key })

/-- The conditions delivered under a key, in order. -/
def deliveredTo (reactor : Reactor) (key : Nat) : List Interest :=
  (reactor.deliveries.filter fun delivery => delivery.key == key).map Delivery.observed

end Reactor

end InstrumentLink
