import InstrumentLink.Proofs.HandleRules
import InstrumentLink.Proofs.ReactorEntries
import InstrumentLink.Proofs.RegistrationFlags

/-!
# The registration of a handle

A handle and the reactor meet in two places only: the entry under the key of the
handle, and the flags that the handle shares with the callback in that entry.
`Handle.Moves` lists all that one step of either of them may do to the handle, to
the entry and to the flags, and every statement that holds at all times follows
from the list: the record of the handle agrees with the entry (`Moves.accords`),
and only the registration that the handle remembers is armed.
-/

namespace InstrumentLink

open Reactor (Entry OnlyAt Registered)

namespace EventSlot

variable {slot after : EventSlot} {reactor swept last : Reactor} {key : Nat} {wish : Wish}
  {result : Except LinkError Unit}

theorem isActive_iff (slot : EventSlot) :
    slot.isActive = true ↔
      ∃ number, slot.record = some number ∧ slot.flags.isArmed number = true := by
  simp [isActive, Option.any_eq_true]

@[simp]
theorem record_disarm (slot : EventSlot) : slot.disarm.record = slot.record := by
  rw [disarm]
  split <;> rfl

@[simp]
theorem issued_disarm (slot : EventSlot) : slot.disarm.issued = slot.issued := by
  simp only [issued, disarm]
  split <;> simp

/-- Disarming takes the remembered registration, and no other one. -/
@[simp]
theorem isArmed_disarm (slot : EventSlot) (number : Nat) :
    slot.disarm.flags.isArmed number =
      (slot.flags.isArmed number && slot.record != some number) := by
  rw [disarm]
  split
  · next hnone => simp [hnone]
  · next held hrecord =>
      rw [hrecord, FlagStore.isArmed_disarm]
      rw [Bool.eq_iff_iff]
      simp [ne_comm]

@[simp]
theorem isInReactor_disarm (slot : EventSlot) (number : Nat) :
    slot.disarm.flags.isInReactor number = slot.flags.isInReactor number := by
  rw [disarm]
  split <;> simp

theorem later_disarm (slot : EventSlot) : slot.flags.Later slot.disarm.flags := by
  rw [disarm]
  split
  · exact .refl _
  · exact slot.flags.later_disarm _

@[simp]
theorem isActive_disarm (slot : EventSlot) : slot.disarm.isActive = false := by
  rw [← Bool.not_eq_true, isActive_iff]
  rintro ⟨number, hrecord, harmed⟩
  rw [record_disarm] at hrecord
  simp [hrecord] at harmed

/-- The flags once the reactor is not to be asked for the remembered entry any more. -/
def withdrawn (slot : EventSlot) : FlagStore :=
  match slot.record with
  | none => slot.flags
  | some number => slot.flags.withdraw number

@[simp]
theorem count_withdrawn (slot : EventSlot) : slot.withdrawn.count = slot.issued := by
  rw [withdrawn]
  split <;> simp [issued]

@[simp]
theorem isArmed_withdrawn (slot : EventSlot) (number : Nat) :
    slot.withdrawn.isArmed number = slot.flags.isArmed number := by
  rw [withdrawn]
  split <;> simp

theorem later_withdrawn (slot : EventSlot) : slot.flags.Later slot.withdrawn := by
  rw [withdrawn]
  split
  · exact .refl _
  · exact slot.flags.later_withdraw _

def entryFor (slot : EventSlot) (key : Nat) (wish : Wish) : Entry :=
  { key, registration := slot.issued, interest := wish.interest, timeout := wish.timeout,
    verdicts := wish.verdicts }

def registered (slot : EventSlot) : EventSlot :=
  { flags := slot.withdrawn.allocate, record := some slot.issued }

def forgotten (flags : FlagStore) : EventSlot := { flags, record := none }

theorem clearStale_slot (slot : EventSlot) (reactor : Reactor) (key : Nat) :
    (slot.clearStale reactor key).1 = forgotten slot.withdrawn := by
  cases hrecord : slot.record with
  | none =>
      simp only [clearStale, withdrawn, hrecord, forgotten]
      rw [← hrecord]
  | some number => simp only [clearStale, withdrawn, hrecord, forgotten]

/-- The removal of a stale entry, if the record tells of one. -/
theorem clearStale_reactor (slot : EventSlot) (reactor : Reactor) (key : Nat) :
    (slot.clearStale reactor key).2 = reactor ∧
        (∀ number, slot.record = some number → slot.flags.isInReactor number = false) ∨
      slot.record ≠ none ∧
        Reactor.Removed reactor key (reactor.unregister key).1 (slot.clearStale reactor key).2 := by
  rw [clearStale]
  split
  · next hnone => simp [hnone]
  · next number hrecord =>
      cases hin : slot.flags.isInReactor number with
      | false => simp [hrecord, hin]
      | true => simp [hrecord, reactor.removed key]

theorem clearStale_onlyAt (slot : EventSlot) (reactor : Reactor) (key : Nat) :
    OnlyAt key [] reactor (slot.clearStale reactor key).2 := by
  obtain ⟨hsame, _⟩ | ⟨_, hremoved⟩ := slot.clearStale_reactor reactor key
  · rw [hsame]
    exact .refl key reactor
  · exact hremoved.onlyAt

/-- How registering ends: turned down at once; without an entry, after the key
was cleared for it; or with the new entry. -/
inductive Registering (slot : EventSlot) (reactor : Reactor) (key : Nat) (wish : Wish) :
    Except LinkError Unit → EventSlot → Reactor → Prop
  | active (hactive : slot.isActive = true) :
      Registering slot reactor key wish (.error (.argument (.registrationActive key))) slot reactor
  | noInterest (hinactive : slot.isActive = false) (hempty : wish.interest.isEmpty = true) :
      Registering slot reactor key wish (.error (.argument .emptyInterest)) slot reactor
  | failed {error : LinkError} {last : Reactor} (hinactive : slot.isActive = false)
      (hinterest : wish.interest.isEmpty = false)
      (hfails : Registered (slot.clearStale reactor key).2 (slot.entryFor key wish)
        (.error error) last) :
      Registering slot reactor key wish (.error error) (forgotten slot.withdrawn.allocate) last
  | made {last : Reactor} (hinactive : slot.isActive = false)
      (hinterest : wish.interest.isEmpty = false)
      (hmade : Registered (slot.clearStale reactor key).2 (slot.entryFor key wish) (.ok ()) last) :
      Registering slot reactor key wish (.ok ()) slot.registered last

theorem register_of_inactive (hinactive : slot.isActive = false)
    (hinterest : wish.interest.isEmpty = false) :
    slot.register reactor key wish =
      match (slot.clearStale reactor key).2.register (slot.entryFor key wish) with
      | (.ok _, last) => (.ok (), slot.registered, last)
      | (.error error, last) => (.error error, forgotten slot.withdrawn.allocate, last) := by
  rw [register, if_neg (by simp [hinactive]), if_neg (by simp [hinterest])]
  rcases hsweep : slot.clearStale reactor key with ⟨cleared, swept⟩
  have hcleared : cleared = forgotten slot.withdrawn := by
    rw [← slot.clearStale_slot reactor key, hsweep]
  have hissued : cleared.issued = slot.issued := by
    rw [hcleared, issued, forgotten, count_withdrawn]
  subst hcleared
  simp only [hissued, entryFor]
  generalize swept.register _ = ends
  obtain ⟨_ | _, last⟩ := ends
  · rfl
  · rfl

/-- Every registration ends in one of the ways listed. -/
theorem registering (slot : EventSlot) (reactor : Reactor) (key : Nat) (wish : Wish) :
    Registering slot reactor key wish (slot.register reactor key wish).1
      (slot.register reactor key wish).2.1 (slot.register reactor key wish).2.2 := by
  by_cases hactive : slot.isActive = true
  · rw [register, if_pos hactive]
    exact .active hactive
  rw [Bool.not_eq_true] at hactive
  by_cases hempty : wish.interest.isEmpty = true
  · rw [register, if_neg (by simp [hactive]), if_pos hempty]
    exact .noInterest hactive hempty
  rw [Bool.not_eq_true] at hempty
  have hends := (slot.clearStale reactor key).2.registered (slot.entryFor key wish)
  rw [register_of_inactive hactive hempty]
  split
  · next hregister =>
      rw [hregister] at hends
      exact .made hactive hempty hends
  · next hregister =>
      rw [hregister] at hends
      exact .failed hactive hempty hends

theorem Registering.onlyAt (h : Registering slot reactor key wish result after last) :
    OnlyAt key [] reactor last := by
  cases h with
  | active _ => exact .refl key reactor
  | noInterest _ _ => exact .refl key reactor
  | failed _ _ hfails => exact (slot.clearStale_onlyAt reactor key).trans hfails.onlyAt
  | made _ _ hmade => exact (slot.clearStale_onlyAt reactor key).trans hmade.onlyAt

/-- How taking the link back ends: there is no record; the reactor is asked; or
it has dropped the entry already.  A registration that was remembered is disarmed
in any case. -/
inductive Unregistering (slot : EventSlot) (reactor : Reactor) (key : Nat) :
    Except LinkError Unit → EventSlot → Reactor → Prop
  | noRecord (hnone : slot.record = none) :
      Unregistering slot reactor key (.error (.argument (.noRegistration key))) slot reactor
  | asked {result : Except LinkError Unit} {last : Reactor} {number : Nat}
      (hrecord : slot.record = some number) (hin : slot.flags.isInReactor number = true)
      (hends : Reactor.Removed reactor key result last) :
      Unregistering slot reactor key result (forgotten (slot.flags.clear number)) last
  | gone {number : Nat} (hrecord : slot.record = some number)
      (hgone : slot.flags.isInReactor number = false) :
      Unregistering slot reactor key (.ok ()) (forgotten (slot.flags.clear number)) reactor

/-- Every removal ends in one of the ways listed. -/
theorem unregistering (slot : EventSlot) (reactor : Reactor) (key : Nat) :
    Unregistering slot reactor key (slot.unregister reactor key).1
      (slot.unregister reactor key).2.1 (slot.unregister reactor key).2.2 := by
  rw [unregister]
  split
  · next hnone => exact .noRecord hnone
  · next number hrecord =>
      simp only [FlagStore.isInReactor_disarm]
      split
      · next hin => exact .asked hrecord hin (reactor.removed key)
      · next hnot => exact .gone hrecord (by simpa using hnot)

theorem Unregistering.onlyAt (h : Unregistering slot reactor key result after last) :
    OnlyAt key [] reactor last := by
  cases h with
  | noRecord _ => exact .refl key reactor
  | asked _ _ hends => exact hends.onlyAt
  | gone _ _ => exact .refl key reactor

/-- However it ends, there is no registration any more. -/
theorem Unregistering.inactive (h : Unregistering slot reactor key result after last) :
    after.isActive = false := by
  cases h with
  | noRecord hnone => simp [isActive, hnone]
  | asked _ _ _ => rfl
  | gone _ _ => rfl

end EventSlot

/-- What the flags of a remembered registration tell of the entry under the key and
of the handle: the entry is there exactly if the flags say so, it belongs to the
registration, and it is wanted only while the handle is open. -/
structure FlagStore.Tells (flags : FlagStore) (number : Nat) (mode : Option OpenMode)
    (held : Option Entry) : Prop where
  inReactor_iff : flags.isInReactor number = true ↔ held ≠ none
  owns : ∀ entry, held = some entry → entry.registration = number
  wanted : flags.isArmed number = true → flags.isInReactor number = true ∧ mode ≠ none

namespace Handle

variable {handle after : Handle} {held left : Option Entry} {refuses : Bool}

/-- The flags of the registration that a handle remembers tell what the reactor
holds under its key, an entry of any other registration is not armed, and no
registration is older than its number says. -/
structure Accords (handle : Handle) (held : Option Entry) : Prop where
  tells : ∀ number, handle.events.record = some number →
    handle.events.flags.Tells number handle.mode held
  recorded : ∀ entry, held = some entry →
    handle.events.flags.isArmed entry.registration = true →
      handle.events.record = some entry.registration
  record_issued : ∀ number, handle.events.record = some number → number < handle.events.issued
  entry_issued : ∀ entry, held = some entry → entry.registration < handle.events.issued

/-- All that one step may do to a handle and to the entry under its key.
`refuses` tells whether a removal would be refused. -/
inductive Moves (refuses : Bool) (handle : Handle) (held : Option Entry) :
    Handle → Option Entry → Prop
  | still : Moves refuses handle held handle held
  | opened (mode : OpenMode) : Moves refuses handle held { handle with mode := some mode } held
  | closed : Moves refuses handle held handle.closed held
  | registered (entry : Entry) (hopen : handle.mode ≠ none)
      (hnumber : entry.registration = handle.events.issued) :
      Moves refuses handle held { handle with events := handle.events.registered } (some entry)
  | forgot (flags : FlagStore) (left : Option Entry) (hlater : handle.events.flags.Later flags)
      (hinert : ∀ entry, left = some entry → flags.isArmed entry.registration = false)
      (hleft : left = none ∨ left = held ∧ (refuses = true ∨ handle.events.record = none)) :
      Moves refuses handle held { handle with events := .forgotten flags } left
  | kept (entry next : Entry) (hheld : held = some entry)
      (hsame : next.registration = entry.registration) :
      Moves refuses handle held handle (some next)
  | ended (entry : Entry) (hheld : held = some entry) :
      Moves refuses handle held
        (handle.withFlags (handle.events.flags.clear entry.registration)) none

theorem Moves.key_eq (h : Moves refuses handle held after left) : after.key = handle.key := by
  cases h <;> rfl

/-- No step arms a registration that was not armed, except a new one. -/
theorem Moves.later (h : Moves refuses handle held after left) :
    handle.events.flags.Later after.events.flags := by
  cases h with
  | closed => exact handle.events.later_disarm
  | registered _ _ _ => exact handle.events.later_withdrawn.trans (FlagStore.later_allocate _)
  | forgot _ _ hlater _ _ => exact hlater
  | ended entry _ => exact FlagStore.later_clear _ _
  | _ => exact .refl _

/-- An entry that is not new was there before, for the same registration. -/
theorem Moves.entry_before {entry : Entry} (h : Moves refuses handle held after left)
    (hentry : left = some entry) (hissued : entry.registration < handle.events.issued) :
    ∃ old, held = some old ∧ old.registration = entry.registration := by
  cases h with
  | registered _ _ hnumber =>
      cases hentry
      exact absurd hnumber (Nat.ne_of_lt hissued)
  | forgot _ _ _ _ hleft =>
      rcases hleft with hnone | ⟨hsame, _⟩
      · cases hnone.symm.trans hentry
      · exact ⟨entry, hsame.symm.trans hentry, rfl⟩
  | kept old _ hheld hsame =>
      cases hentry
      exact ⟨old, hheld, hsame.symm⟩
  | ended _ _ => cases hentry
  | _ => exact ⟨entry, hentry, rfl⟩

theorem Accords.fresh (hevents : handle.events = {}) : handle.Accords none := by
  constructor <;> simp [hevents]

/-- A handle has a registration exactly if the entry under its key is armed. -/
theorem Accords.active_iff (h : handle.Accords held) :
    handle.hasRegistration = true ↔
      ∃ entry, held = some entry ∧ handle.events.flags.isArmed entry.registration = true := by
  rw [hasRegistration, EventSlot.isActive_iff]
  constructor
  · rintro ⟨number, hrecord, harmed⟩
    have htells := h.tells number hrecord
    obtain ⟨entry, hheld⟩ :=
      Option.ne_none_iff_exists'.mp (htells.inReactor_iff.mp (htells.wanted harmed).1)
    exact ⟨entry, hheld, htells.owns entry hheld ▸ harmed⟩
  · rintro ⟨entry, hheld, harmed⟩
    exact ⟨_, h.recorded entry hheld harmed, harmed⟩

/-- A handle without a registration has no armed entry. -/
theorem Accords.inert (h : handle.Accords held) (hinactive : handle.hasRegistration = false)
    {entry : Entry} (hheld : held = some entry) :
    handle.events.flags.isArmed entry.registration = false := by
  by_contra harmed
  rw [Bool.not_eq_false] at harmed
  rw [h.active_iff.mpr ⟨entry, hheld, harmed⟩] at hinactive
  cases hinactive

/-- A closed handle has no registration. -/
theorem Accords.inactive_of_closed (h : handle.Accords held) (hclosed : handle.mode = none) :
    handle.hasRegistration = false := by
  rw [← Bool.not_eq_true, hasRegistration, EventSlot.isActive_iff]
  rintro ⟨number, hrecord, harmed⟩
  exact ((h.tells number hrecord).wanted harmed).2 hclosed

/-- Disarming the registration leaves no armed entry. -/
theorem Accords.inert_of_disarm (h : handle.Accords held) {entry : Entry}
    (hheld : held = some entry) :
    handle.events.disarm.flags.isArmed entry.registration = false := by
  rw [EventSlot.isArmed_disarm]
  cases harmed : handle.events.flags.isArmed entry.registration with
  | false => rfl
  | true => simp [h.recorded entry hheld harmed]

theorem Accords.opened (h : handle.Accords held) (mode : OpenMode) :
    Accords { handle with mode := some mode } held where
  tells number hrecord :=
    { h.tells number hrecord with
      wanted := fun harmed =>
        ⟨((h.tells number hrecord).wanted harmed).1, Option.some_ne_none mode⟩ }
  recorded := h.recorded
  record_issued := h.record_issued
  entry_issued := h.entry_issued

/-- Closing disarms, so that what is left in the reactor is not wanted. -/
theorem Accords.closed (h : handle.Accords held) : handle.closed.Accords held := by
  constructor
  · intro number hrecord
    rw [closed_events, EventSlot.record_disarm] at hrecord
    have htells := h.tells number hrecord
    constructor
    · simpa using htells.inReactor_iff
    · exact htells.owns
    · simp [hrecord]
  · intro entry hentry harmed
    rw [closed_events, h.inert_of_disarm hentry] at harmed
    cases harmed
  · simpa using h.record_issued
  · simpa using h.entry_issued

/-- The new entry is the only one, and the flags of its registration are new as well. -/
theorem accords_registered {entry : Entry} (hopen : handle.mode ≠ none)
    (hnumber : entry.registration = handle.events.issued) :
    Accords { handle with events := handle.events.registered } (some entry) := by
  have hissued : handle.events.registered.issued = handle.events.issued + 1 := by
    simp [EventSlot.registered, EventSlot.issued]
  have hin : handle.events.registered.flags.isInReactor handle.events.issued = true := by
    rw [← EventSlot.count_withdrawn, EventSlot.registered, FlagStore.isInReactor_allocate]
  constructor
  · intro number hrecord
    cases hrecord
    constructor
    · simpa using hin
    · intro _ hentry
      cases hentry
      exact hnumber
    · intro _
      exact ⟨hin, hopen⟩
  · intro _ hentry _
    cases hentry
    rw [hnumber]
    rfl
  · intro number hrecord
    cases hrecord
    rw [hissued]
    exact Nat.lt_succ_self _
  · intro _ hentry
    cases hentry
    rw [hissued, hnumber]
    exact Nat.lt_succ_self _

/-- Without a record, an entry that is left must not be armed. -/
theorem Accords.forgot (h : handle.Accords held) {flags : FlagStore}
    (hlater : handle.events.flags.Later flags)
    (hinert : ∀ entry, left = some entry → flags.isArmed entry.registration = false)
    (hleft : left = none ∨ left = held) :
    Accords { handle with events := .forgotten flags } left := by
  constructor
  · intro _ hrecord
    cases hrecord
  · intro entry hentry harmed
    cases (hinert entry hentry).symm.trans harmed
  · intro _ hrecord
    cases hrecord
  · intro entry hentry
    rcases hleft with hnone | hsame
    · cases hnone.symm.trans hentry
    · exact Nat.lt_of_lt_of_le (h.entry_issued entry (hsame.symm.trans hentry)) hlater.count_le

theorem Accords.kept {entry next : Entry} (h : handle.Accords (some entry))
    (hsame : next.registration = entry.registration) : handle.Accords (some next) := by
  constructor
  · intro number hrecord
    have htells := h.tells number hrecord
    constructor
    · simpa using htells.inReactor_iff
    · intro _ hnext
      cases hnext
      exact hsame.trans (htells.owns entry rfl)
    · exact htells.wanted
  · intro _ hnext
    cases hnext
    rw [hsame]
    exact h.recorded entry rfl
  · exact h.record_issued
  · intro _ hnext
    cases hnext
    rw [hsame]
    exact h.entry_issued entry rfl

/-- An entry that leaves has cleared the flags of the registration that is remembered. -/
theorem Accords.ended {entry : Entry} (h : handle.Accords (some entry)) :
    (handle.withFlags (handle.events.flags.clear entry.registration)).Accords none := by
  constructor
  · intro number hrecord
    have howns := (h.tells number hrecord).owns entry rfl
    constructor <;> simp [withFlags, howns]
  · intro _ hnone
    cases hnone
  · simpa [withFlags, EventSlot.issued] using h.record_issued
  · intro _ hnone
    cases hnone

/-- What the flags of a handle tell stays true, whatever the step. -/
theorem Moves.accords (h : Moves refuses handle held after left) (haccords : handle.Accords held) :
    after.Accords left := by
  cases h with
  | still => exact haccords
  | opened mode => exact haccords.opened mode
  | closed => exact haccords.closed
  | registered _ hopen hnumber => exact accords_registered hopen hnumber
  | forgot _ _ hlater hinert hleft =>
      exact haccords.forgot hlater hinert (hleft.imp_right And.left)
  | kept _ _ hheld hsame =>
      subst hheld
      exact haccords.kept hsame
  | ended _ hheld =>
      subst hheld
      exact haccords.ended

/-- While no removal is refused, a handle keeps its record for as long as there is
an entry under its key. -/
theorem Moves.record_ne_none (h : Moves false handle held after left)
    (hrecord : held ≠ none → handle.events.record ≠ none) :
    left ≠ none → after.events.record ≠ none := by
  cases h with
  | still => exact hrecord
  | opened _ => exact hrecord
  | closed => simpa [Handle.closed] using hrecord
  | registered _ _ _ => simp [EventSlot.registered]
  | forgot _ _ _ _ hleft =>
      intro hheld
      rcases hleft with hnone | ⟨hsame, hfalse | hnone⟩
      · exact absurd hnone hheld
      · cases hfalse
      · rw [hsame] at hheld
        exact absurd hnone (hrecord hheld)
  | kept _ _ hheld _ =>
      intro _
      exact hrecord (by simp [hheld])
  | ended _ _ => simp

/-- Clearing the key takes the entry away, unless the removal is refused or there
is no record of an entry. -/
theorem Accords.cleared {reactor : Reactor} {key : Nat}
    (h : handle.Accords (reactor.entry? key)) :
    Reactor.entry? (handle.events.clearStale reactor key).2 key = none ∨
      Reactor.entry? (handle.events.clearStale reactor key).2 key = reactor.entry? key ∧
        (reactor.refusesRemoval = true ∨ handle.events.record = none) := by
  obtain ⟨hsame, hout⟩ | ⟨_, hremoved⟩ := handle.events.clearStale_reactor reactor key
  · rw [hsame]
    cases hrecord : handle.events.record with
    | none => exact .inr ⟨rfl, .inr rfl⟩
    | some number =>
        left
        by_contra hheld
        have hin := (h.tells number hrecord).inReactor_iff.mpr hheld
        simp [hout number hrecord] at hin
  · rcases hremoved.entry? with hnone | ⟨hrefuses, hkept⟩
    · exact .inl hnone
    · exact .inr ⟨hkept, .inl hrefuses⟩

/-- A registration that could not be made leaves the entry that was there, if it
still is, and that one is not armed. -/
theorem Accords.moves_of_failed {left : Option Entry} (haccords : handle.Accords held)
    (hinactive : handle.hasRegistration = false)
    (hleft : left = none ∨ left = held ∧ (refuses = true ∨ handle.events.record = none)) :
    handle.Moves refuses held
      { handle with events := .forgotten handle.events.withdrawn.allocate } left := by
  refine .forgot _ _ (handle.events.later_withdrawn.trans (FlagStore.later_allocate _)) ?_ hleft
  intro entry hentry
  rcases hleft with hnone | ⟨hsame, _⟩
  · cases hnone.symm.trans hentry
  · have hheld := hsame.symm.trans hentry
    have hold := Nat.ne_of_lt (haccords.entry_issued entry hheld)
    simp [FlagStore.isArmed_allocate, haccords.inert hinactive hheld, hold]

theorem Accords.moves_of_registering {reactor last : Reactor} {key : Nat} {wish : EventSlot.Wish}
    {result : Except LinkError Unit} {events : EventSlot}
    (haccords : handle.Accords (reactor.entry? key)) (hopen : handle.mode ≠ none)
    (h : handle.events.Registering reactor key wish result events last) :
    handle.Moves reactor.refusesRemoval (reactor.entry? key) { handle with events }
      (last.entry? key) := by
  cases h with
  | active _ => exact .still
  | noInterest _ _ => exact .still
  | failed hinactive _ hfails =>
      cases hfails with
      | refused _ => exact haccords.moves_of_failed hinactive haccords.cleared
      | taken _ _ => exact haccords.moves_of_failed hinactive haccords.cleared
  | made _ _ hmade =>
      cases hmade with
      | added _ hfree =>
          rw [show Reactor.entry? _ key = some _ from
            (Reactor.entry?_of_added hfree key).trans (if_pos rfl)]
          exact .registered _ hopen rfl

theorem Accords.moves_of_unregistering {reactor last : Reactor} {key : Nat}
    {result : Except LinkError Unit} {events : EventSlot}
    (haccords : handle.Accords (reactor.entry? key))
    (h : handle.events.Unregistering reactor key result events last) :
    handle.Moves reactor.refusesRemoval (reactor.entry? key) { handle with events }
      (last.entry? key) := by
  cases h with
  | noRecord _ => exact .still
  | asked hrecord _ hends =>
      have hleft := hends.entry?
      refine .forgot _ _ (FlagStore.later_clear _ _) ?_
        (hleft.imp_right fun hkept => ⟨hkept.2, .inl hkept.1⟩)
      intro entry hentry
      -- An entry that stays because the removal was refused is that of the record.
      rcases hleft with hnone | ⟨_, hkept⟩
      · cases hnone.symm.trans hentry
      · simp [(haccords.tells _ hrecord).owns entry (hkept.symm.trans hentry)]
  | gone hrecord hout =>
      have hnone : reactor.entry? key = none := by
        by_contra hheld
        have hin := (haccords.tells _ hrecord).inReactor_iff.mpr hheld
        simp [hout] at hin
      exact .forgot _ _ (FlagStore.later_clear _ _) (by simp [hnone]) (.inl hnone)

/-- The callback moves the handle that it belongs to. -/
theorem moves_of_fired {reactor last : Reactor} {key : Nat} {observed : Interest}
    {verdict : Option Bool} {flags : FlagStore}
    (h : reactor.Fired handle.events.flags key observed verdict flags last) :
    handle.Moves refuses (reactor.entry? key) (handle.withFlags flags) (last.entry? key) := by
  cases h with
  | unheld _ => exact .still
  | stays hheld _ _ hnext hsame _ =>
      rw [hnext]
      exact .kept _ _ hheld hsame
  | leaves hheld _ _ hgone _ =>
      rw [hgone]
      exact .ended _ hheld
  | inert hheld _ hgone _ =>
      rw [hgone]
      exact .ended _ hheld

/-! ### Registering through a handle -/

section Operations

open LinkM

variable {σ : Type}

theorem registerForEvents_leads (transport : Transport σ) (wish : EventSlot.Wish)
    (station : Station σ) (reactor : Reactor) :
    Leads (registerForEvents transport wish) (station, reactor)
      (fun _ last => station.handle.mode ≠ none ∧ ∃ events,
        station.handle.events.Registering reactor station.handle.key wish (.ok ()) events last.2 ∧
          last.1.handle = { station.handle with events })
      (fun error last => SourceFailure transport station error last.1 ∧ last.2 = reactor ∨
        station.handle.mode ≠ none ∧ ∃ events,
          station.handle.events.Registering reactor station.handle.key wish (.error error) events
            last.2 ∧
          last.1.handle = { station.handle with events }) := by
  simp only [registerForEvents, leads_bind, leads_within, leads_get]
  apply (eventSource_leads transport station).mono
  · rintro source _ ⟨hopen, world, _, rfl⟩
    have hends := station.handle.events.registering reactor station.handle.key wish
    rw [leads_set, leads_ofExcept]
    constructor
    · intro _ hresult
      rw [hresult] at hends
      exact ⟨hopen, _, hends, rfl⟩
    · intro error hresult
      rw [hresult] at hends
      exact .inr ⟨hopen, _, hends, rfl⟩
  · intro _ _ hfailed
    exact .inl ⟨hfailed, trivial⟩

theorem unregisterFromEvents_leads (station : Station σ) (reactor : Reactor) :
    Leads unregisterFromEvents (station, reactor)
      (fun _ last => ∃ events,
        station.handle.events.Unregistering reactor station.handle.key (.ok ()) events last.2 ∧
          last.1.handle = { station.handle with events })
      (fun error last => ∃ events,
        station.handle.events.Unregistering reactor station.handle.key (.error error) events
            last.2 ∧
          last.1.handle = { station.handle with events }) := by
  have hends := station.handle.events.unregistering reactor station.handle.key
  simp only [unregisterFromEvents, leads_bind, leads_get, leads_set]
  rw [leads_ofExcept]
  constructor
  · intro _ hresult
    rw [hresult] at hends
    exact ⟨_, hends, rfl⟩
  · intro error hresult
    rw [hresult] at hends
    exact ⟨_, hends, rfl⟩

end Operations

end Handle

end InstrumentLink
