import InstrumentLink.Event.Reactor
import Mathlib.Data.List.Nodup

/-!
# The entries of a reactor

Registering, removing and firing touch the entry under one key and leave every
other one alone, and only firing runs a callback.  At every time there is at most
one entry under a key.
-/

namespace InstrumentLink.Reactor

variable {reactor before between after : Reactor} {entry : Entry} {key other : Nat}

theorem key_of_entry? (h : reactor.entry? key = some entry) : entry.key = key := by
  simpa using List.find?_some h

theorem find?_without (reactor : Reactor) (key other : Nat) :
    (reactor.without key).find? (fun entry => entry.key == other) =
      if other = key then none else reactor.entry? other := by
  rw [without, List.find?_filter, entry?]
  split
  · next hsame =>
      subst hsame
      rw [List.find?_eq_none]
      intro entry _
      simp
  · next hother =>
      congr 1
      funext entry
      by_cases hentry : entry.key = other
      · simp [hentry, hother]
      · simp [hentry]

theorem entry?_without_self (reactor : Reactor) (key : Nat) :
    entry? { reactor with entries := reactor.without key } key = none := by
  rw [ entry?, find?_without, if_pos rfl]

theorem entry?_update (reactor : Reactor) (entry : Entry) (other : Nat) :
    entry? (reactor.update entry) other =
      (reactor.entry? other).map fun old => if old.key = entry.key then entry else old := by
  rw [ entry?, update, List.find?_map, entry?]
  congr 2
  funext old
  by_cases hkey : old.key = entry.key
  · simp [hkey]
  · simp [hkey]

def Exclusive (reactor : Reactor) : Prop := (reactor.entries.map Entry.key).Nodup

theorem exclusive_without (hexclusive : reactor.Exclusive) (key : Nat) :
    ((reactor.without key).map Entry.key).Nodup :=
  hexclusive.sublist (List.filter_sublist.map Entry.key)

theorem exclusive_update (hexclusive : reactor.Exclusive) (entry : Entry) :
    (reactor.update entry).Exclusive := by
  have hkeys : (reactor.update entry).entries.map Entry.key = reactor.entries.map Entry.key := by
    rw [update, List.map_map]
    congr 1
    funext old
    by_cases hkey : old.key = entry.key
    · simp [hkey]
    · simp [hkey]
  rw [Exclusive, hkeys]
  exact hexclusive

/-- From one reactor to the other only the entry under one key may have
changed, and the callbacks of `new` were run. -/
structure OnlyAt (key : Nat) (new : List Delivery) (before after : Reactor) : Prop where
  others : ∀ other, other ≠ key → after.entry? other = before.entry? other
  deliveries : after.deliveries = before.deliveries ++ new
  refusesRegister : after.refusesRegister = true → before.refusesRegister = true
  refusesRemoval : after.refusesRemoval = true → before.refusesRemoval = true
  exclusive : before.Exclusive → after.Exclusive

theorem OnlyAt.refl (key : Nat) (reactor : Reactor) : OnlyAt key [] reactor reactor :=
  ⟨fun _ _ => rfl, (List.append_nil _).symm, id, id, id⟩

theorem OnlyAt.trans {new more : List Delivery} (hfirst : OnlyAt key new before between)
    (hmore : OnlyAt key more between after) : OnlyAt key (new ++ more) before after where
  others other hother := (hmore.others other hother).trans (hfirst.others other hother)
  deliveries := by rw [hmore.deliveries, hfirst.deliveries, List.append_assoc]
  refusesRegister := hfirst.refusesRegister ∘ hmore.refusesRegister
  refusesRemoval := hfirst.refusesRemoval ∘ hmore.refusesRemoval
  exclusive := hmore.exclusive ∘ hfirst.exclusive

theorem onlyAt_without (reactor : Reactor) (key : Nat) :
    OnlyAt key [] reactor { reactor with entries := reactor.without key } where
  others other hother := by
    rw [ entry?, find?_without, if_neg hother]
  deliveries := (List.append_nil _).symm
  refusesRegister := id
  refusesRemoval := id
  exclusive hexclusive := exclusive_without hexclusive key

theorem onlyAt_update (reactor : Reactor) (entry : Entry) :
    OnlyAt entry.key [] reactor (reactor.update entry) where
  others other hother := by
    rw [entry?_update]
    cases hheld : reactor.entry? other with
    | none => rfl
    | some old =>
        have hkey : old.key ≠ entry.key := by
          rw [ key_of_entry? hheld]
          exact hother
        rw [Option.map_some, if_neg hkey]
  deliveries := (List.append_nil _).symm
  refusesRegister := id
  refusesRemoval := id
  exclusive hexclusive := exclusive_update hexclusive entry

theorem onlyAt_deliver (reactor : Reactor) (key : Nat) (delivery : Delivery) :
    OnlyAt key [delivery] reactor
      { reactor with deliveries := reactor.deliveries ++ [delivery] } :=
  ⟨fun _ _ => rfl, rfl, id, id, id⟩

/-- How a registration ends: refused, on a key that is taken, or with the entry
under its key. -/
inductive Registered (reactor : Reactor) (entry : Entry) : Except LinkError Unit → Reactor → Prop
  | refused (hrefuses : reactor.refusesRegister = true) :
      Registered reactor entry (.error (.transport .reactorRefusal))
        { reactor with refusesRegister := false }
  | taken (haccepts : reactor.refusesRegister = false) (htaken : reactor.entry? entry.key ≠ none) :
      Registered reactor entry (.error (.argument (.keyTaken entry.key))) reactor
  | added (haccepts : reactor.refusesRegister = false) (hfree : reactor.entry? entry.key = none) :
      Registered reactor entry (.ok ()) { reactor with entries := reactor.entries ++ [entry] }

theorem registered (reactor : Reactor) (entry : Entry) :
    Registered reactor entry (reactor.register entry).1 (reactor.register entry).2 := by
  rw [register]
  split
  · next hrefuses => exact .refused hrefuses
  · next haccepts =>
      rw [Bool.not_eq_true] at haccepts
      split
      · next htaken =>
          exact .taken haccepts (Option.isSome_iff_ne_none.mp htaken)
      · next hfree => exact .added haccepts (by simpa using hfree)

theorem entry?_of_added (hfree : reactor.entry? entry.key = none) (other : Nat) :
    entry? { reactor with entries := reactor.entries ++ [entry] } other =
      if other = entry.key then some entry else reactor.entry? other := by
  rw [ entry?, List.find?_append, ← entry?]
  split
  · next hsame => simp [hsame, hfree]
  · next hother => simp [Ne.symm hother]

/-- A registration changes the entry under its own key at most. -/
theorem Registered.onlyAt {result : Except LinkError Unit}
    (h : Registered reactor entry result after) : OnlyAt entry.key [] reactor after := by
  cases h with
  | refused _ =>
      exact ⟨fun _ _ => rfl, (List.append_nil _).symm,
        fun hrefuses => Bool.noConfusion hrefuses, id, id⟩
  | taken _ _ => exact .refl _ _
  | added _ hfree =>
      refine ⟨?_, (List.append_nil _).symm, id, id, ?_⟩
      · intro other hother
        rw [entry?_of_added hfree, if_neg hother]
      · intro hexclusive
        have hnew : entry.key ∉ reactor.entries.map Entry.key := by
          rw [ entry?, List.find?_eq_none] at hfree
          intro hmem
          obtain ⟨old, hold, hkey⟩ := List.mem_map.mp hmem
          exact hfree old hold (by simpa using hkey)
        rw [Exclusive, List.map_append, List.map_singleton]
        exact List.nodup_append'.mpr
          ⟨hexclusive, List.nodup_singleton _, List.disjoint_singleton.mpr hnew⟩

/-- How a removal ends: refused, with the entry removed, or without one to
remove. -/
inductive Removed (reactor : Reactor) (key : Nat) : Except LinkError Unit → Reactor → Prop
  | refused (hrefuses : reactor.refusesRemoval = true) :
      Removed reactor key (.error (.transport .reactorRefusal))
        { reactor with refusesRemoval := false }
  | gone (haccepts : reactor.refusesRemoval = false) (hheld : reactor.entry? key ≠ none) :
      Removed reactor key (.ok ()) { reactor with entries := reactor.without key }
  | unknown (haccepts : reactor.refusesRemoval = false) (hnone : reactor.entry? key = none) :
      Removed reactor key (.error (.argument (.keyUnknown key))) reactor

theorem removed (reactor : Reactor) (key : Nat) :
    Removed reactor key (reactor.unregister key).1 (reactor.unregister key).2 := by
  rw [unregister]
  split
  · next hrefuses => exact .refused hrefuses
  · next haccepts =>
      rw [Bool.not_eq_true] at haccepts
      split
      · next hheld => exact .gone haccepts (Option.isSome_iff_ne_none.mp hheld)
      · next hnone => exact .unknown haccepts (by simpa using hnone)

theorem Removed.onlyAt {result : Except LinkError Unit} (h : Removed reactor key result after) :
    OnlyAt key [] reactor after := by
  cases h with
  | refused _ =>
      exact ⟨fun _ _ => rfl, (List.append_nil _).symm, id,
        fun hrefuses => Bool.noConfusion hrefuses, id⟩
  | unknown _ _ => exact .refl _ _
  | gone _ _ => exact onlyAt_without reactor key

/-- A removal that is not refused leaves no entry. -/
theorem Removed.entry? {result : Except LinkError Unit} (h : Removed reactor key result after) :
    after.entry? key = none ∨
      (reactor.refusesRemoval = true ∧ after.entry? key = reactor.entry? key) := by
  cases h with
  | refused hrefuses => exact .inr ⟨hrefuses, rfl⟩
  | unknown _ hnone => exact .inl hnone
  | gone _ _ => exact .inl (reactor.entry?_without_self key)

variable {flags left : FlagStore} {observed : Interest} {verdict : Option Bool}

/-- How a firing ends: without an entry nothing happens; an armed entry runs the
callback and stays or leaves by its verdict; an inert one leaves.  An entry that
leaves has cleared its flags. -/
inductive Fired (reactor : Reactor) (flags : FlagStore) (key : Nat) (observed : Interest) :
    Option Bool → FlagStore → Reactor → Prop
  | unheld (hnone : reactor.entry? key = none) :
      Fired reactor flags key observed none flags reactor
  | stays {entry next : Entry} {after : Reactor} (hheld : reactor.entry? key = some entry)
      (harmed : flags.isArmed entry.registration = true)
      (hverdict : entry.verdicts.headD true = true) (hnext : after.entry? key = some next)
      (hsame : next.registration = entry.registration)
      (honly : OnlyAt key [{ key, registration := entry.registration, observed }] reactor after) :
      Fired reactor flags key observed (some true) flags after
  | leaves {entry : Entry} {after : Reactor} (hheld : reactor.entry? key = some entry)
      (harmed : flags.isArmed entry.registration = true)
      (hverdict : entry.verdicts.headD true = false) (hgone : after.entry? key = none)
      (honly : OnlyAt key [{ key, registration := entry.registration, observed }] reactor after) :
      Fired reactor flags key observed (some false) (flags.clear entry.registration) after
  | inert {entry : Entry} {after : Reactor} (hheld : reactor.entry? key = some entry)
      (hinert : flags.isArmed entry.registration = false) (hgone : after.entry? key = none)
      (honly : OnlyAt key [] reactor after) :
      Fired reactor flags key observed (some false) (flags.clear entry.registration) after

/-- Every firing ends in one of the ways listed. -/
theorem fired (reactor : Reactor) (flags : FlagStore) (key : Nat) (observed : Interest) :
    Fired reactor flags key observed (reactor.fire flags key observed).1
      (reactor.fire flags key observed).2.1 (reactor.fire flags key observed).2.2 := by
  rw [fire]
  cases hheld : reactor.entry? key with
  | none => exact .unheld hheld
  | some entry =>
      obtain rfl := key_of_entry? hheld
      cases harmed : flags.isArmed entry.registration with
      | false =>
          simp only [harmed]
          exact .inert hheld harmed (entry?_without_self _ _) (onlyAt_without _ _)
      | true =>
          have hdelivered := reactor.onlyAt_deliver entry.key
            { key := entry.key, registration := entry.registration, observed }
          cases hverdict : entry.verdicts.headD true with
          | false =>
              simp only [harmed, hverdict]
              exact .leaves hheld harmed hverdict (entry?_without_self _ _)
                (hdelivered.trans (onlyAt_without _ _))
          | true =>
              simp only [harmed, hverdict]
              let next : Entry := { entry with verdicts := entry.verdicts.drop 1 }
              have hnext : (reactor.entry? entry.key).map (fun old =>
                  if old.key = entry.key then next else old) = some next := by
                rw [hheld, Option.map_some, if_pos rfl]
              exact .stays hheld harmed hverdict ((entry?_update _ next _).trans hnext) rfl
                (hdelivered.trans (onlyAt_update _ next))

theorem Fired.gone (h : Fired reactor flags key observed (some false) left after) :
    after.entry? key = none := by
  cases h with
  | leaves _ _ _ hgone _ => exact hgone
  | inert _ _ hgone _ => exact hgone

/-- A firing runs no callback but that of the entry under the key, and only if it
is armed. -/
theorem Fired.onlyAt (h : Fired reactor flags key observed verdict left after) :
    ∃ new, OnlyAt key new reactor after ∧ ∀ delivery ∈ new, delivery.key = key ∧
      ∃ entry, reactor.entry? key = some entry ∧ entry.registration = delivery.registration ∧
        flags.isArmed entry.registration = true := by
  cases h with
  | unheld _ => exact ⟨[], .refl key reactor, by simp⟩
  | inert _ _ _ honly => exact ⟨[], honly, by simp⟩
  | stays hheld harmed _ _ _ honly => exact ⟨_, honly, by simpa [hheld] using harmed⟩
  | leaves hheld harmed _ _ honly => exact ⟨_, honly, by simpa [hheld] using harmed⟩

end InstrumentLink.Reactor
