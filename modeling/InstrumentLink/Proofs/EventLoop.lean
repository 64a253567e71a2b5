import InstrumentLink.Backend
import InstrumentLink.Proofs.RegistrationSlot
import InstrumentLink.Transport.Scripted
import Mathlib.Logic.Function.Basic

/-!
# Event loops

Any number of handles share one reactor.  They are opened, closed, registered,
unregistered and dropped in any order, the reactor fires under any key, and any
of its calls may be refused.  `EventLoop.Changed` lists all that one action may
do under one key; `Consistent.run` holds at all times, and `Ended.silent_run`
tells that the callback of a registration that ended is never run again.
-/

namespace InstrumentLink

open Reactor (Entry Delivery OnlyAt)

/-- Handles by key, with the world that their transports share and the reactor
that they register with.  A dropped handle leaves its place empty and the flags
of its registrations to the callback that shares them. -/
structure EventLoop (σ : Type) where
  links : Nat → Option (Link σ)
  left : Nat → FlagStore := fun _ => {}
  world : σ
  reactor : Reactor := {}

namespace EventLoop

variable {σ : Type}

def start (transports : Nat → Transport σ) (connections : Nat → Connection) (world : σ) :
    EventLoop σ where
  links key :=
    some { transport := transports key, handle := { key, connection := connections key } }
  world := world

/-- The operations of a handle on which its registration depends. -/
inductive Operation where
  | openLink (mode : OpenMode)
  | closeLink
  | register (wish : EventSlot.Wish)
  | unregister
  deriving DecidableEq, Repr

def beside (action : LinkM (Station σ) Unit) : LinkM (Station σ × Reactor) Unit :=
  LinkM.within Prod.fst (fun both station => (station, both.2)) action

def Operation.action (transport : Transport σ) : Operation → LinkM (Station σ × Reactor) Unit
  | openLink mode => beside (Handle.openLink transport mode)
  | closeLink => beside (Handle.closeLink transport)
  | register wish => Handle.registerForEvents transport wish
  | unregister => Handle.unregisterFromEvents

inductive Action (σ : Type) where
  | use (key : Nat) (operation : Operation)
  | drop (key : Nat)
  | fire (key : Nat) (observed : Interest)
  /-- The next registration will be refused. -/
  | refuseRegister
  /-- The next removal will be refused. -/
  | refuseRemoval
  | meanwhile (change : σ → σ)

/-- Runs an operation of a handle; there is no answer once it was dropped. -/
def use (loop : EventLoop σ) (key : Nat) (operation : Operation) :
    Option (Except LinkError Unit) × EventLoop σ :=
  match loop.links key with
  | none => (none, loop)
  | some link =>
      let (result, station, reactor) := (operation.action link.transport).outcome
        ({ handle := link.handle, world := loop.world }, loop.reactor)
      (some result,
        { loop with
          links := Function.update loop.links key (some { link with handle := station.handle })
          world := station.world
          reactor })

/-- The flags of the registrations that were made under a key. -/
def flags (loop : EventLoop σ) (key : Nat) : FlagStore :=
  match loop.links key with
  | some link => link.handle.events.flags
  | none => loop.left key

/-- Stores flags where the handle under a key, or what it left, has them. -/
def setFlags (loop : EventLoop σ) (key : Nat) (flags : FlagStore) : EventLoop σ :=
  match loop.links key with
  | some link =>
      let link := { link with handle := link.handle.withFlags flags }
      { loop with links := Function.update loop.links key (some link) }
  | none => { loop with left := Function.update loop.left key flags }

def fire (loop : EventLoop σ) (key : Nat) (observed : Interest) : Option Bool × EventLoop σ :=
  let (verdict, flags, reactor) := loop.reactor.fire (loop.flags key) key observed
  (verdict, { loop.setFlags key flags with reactor })

def perform (loop : EventLoop σ) : Action σ → EventLoop σ
  | .use key operation => (loop.use key operation).2
  | .drop key =>
      match loop.links key with
      | none => loop
      | some link =>
          let (flags, world) := link.handle.drop link.transport loop.world
          { loop with
            links := Function.update loop.links key none
            left := Function.update loop.left key flags
            world }
  | .fire key observed => (loop.fire key observed).2
  | .refuseRegister => { loop with reactor := { loop.reactor with refusesRegister := true } }
  | .refuseRemoval => { loop with reactor := { loop.reactor with refusesRemoval := true } }
  | .meanwhile change => { loop with world := change loop.world }

def run (loop : EventLoop σ) (actions : List (Action σ)) : EventLoop σ :=
  actions.foldl perform loop

def Armed (loop : EventLoop σ) (key : Nat) (entry : Entry) : Prop :=
  (loop.flags key).isArmed entry.registration = true

/-! ### What one action may do -/

variable {loop after : EventLoop σ} {key number : Nat} {new : List Delivery}

theorem flags_of_some {link : Link σ} (hlink : loop.links key = some link) :
    loop.flags key = link.handle.events.flags := by
  rw [flags, hlink]

theorem flags_of_none (hnone : loop.links key = none) : loop.flags key = loop.left key := by
  rw [flags, hnone]

theorem setFlags_of_some {link : Link σ} (hlink : loop.links key = some link) (flags : FlagStore) :
    loop.setFlags key flags = { loop with
      links := Function.update loop.links key
        (some { link with handle := link.handle.withFlags flags }) } := by
  rw [setFlags, hlink]

theorem setFlags_of_none (hnone : loop.links key = none) (flags : FlagStore) :
    loop.setFlags key flags = { loop with left := Function.update loop.left key flags } := by
  rw [setFlags, hnone]

/-- What holds at all times. -/
structure Consistent (loop : EventLoop σ) : Prop where
  exclusive : loop.reactor.Exclusive
  own_key : ∀ key link, loop.links key = some link → link.handle.key = key
  accords : ∀ key link, loop.links key = some link →
    link.handle.Accords (loop.reactor.entry? key)
  left : ∀ key entry, loop.links key = none → loop.reactor.entry? key = some entry →
    entry.registration < (loop.left key).count ∧
      (loop.left key).isArmed entry.registration = false

/-- All that one action may do under a key: nothing; dropping the handle; removing
the entry that a dropped handle left behind; or a move of the handle. -/
inductive Changed (loop : EventLoop σ) (key : Nat) (after : EventLoop σ) : Prop
  | still (hlinks : after.links key = loop.links key) (hleft : after.left key = loop.left key)
      (hentry : after.reactor.entry? key = loop.reactor.entry? key)
  | dropped (link : Link σ) (hlink : loop.links key = some link) (hgone : after.links key = none)
      (hleft : after.left key = link.handle.flagsLeft)
      (hentry : after.reactor.entry? key = loop.reactor.entry? key)
  | unowned (hnone : loop.links key = none) (hstill : after.links key = none)
      (hlater : (loop.left key).Later (after.left key)) (hentry : after.reactor.entry? key = none)
  | moved (link next : Link σ) (hlink : loop.links key = some link)
      (hnext : after.links key = some next)
      (hmoves : link.handle.Moves loop.reactor.refusesRemoval (loop.reactor.entry? key)
        next.handle (after.reactor.entry? key))

/-- What one action may do, with the callbacks that it runs. -/
structure Turned (loop : EventLoop σ) (new : List Delivery) (after : EventLoop σ) : Prop where
  changed : ∀ key, loop.Changed key after
  exclusive : loop.reactor.Exclusive → after.reactor.Exclusive
  deliveries : after.reactor.deliveries = loop.reactor.deliveries ++ new
  armed : ∀ delivery ∈ new, ∃ entry, loop.reactor.entry? delivery.key = some entry ∧
    entry.registration = delivery.registration ∧ loop.Armed delivery.key entry

/-- Nothing happens under any key. -/
theorem turned_of_aside (hlinks : after.links = loop.links) (hleft : after.left = loop.left)
    (hentries : after.reactor.entries = loop.reactor.entries)
    (hdeliveries : after.reactor.deliveries = loop.reactor.deliveries) : loop.Turned [] after where
  changed key :=
    .still (congrFun hlinks key) (congrFun hleft key)
      (by rw [Reactor.entry?, Reactor.entry?, hentries])
  exclusive hexclusive := by rwa [Reactor.Exclusive, hentries]
  deliveries := by rw [hdeliveries, List.append_nil]
  armed := by simp

/-- Something happens under one key only. -/
theorem turned_of_changed (hchanged : loop.Changed key after)
    (hlinks : ∀ other, other ≠ key → after.links other = loop.links other)
    (hleft : ∀ other, other ≠ key → after.left other = loop.left other)
    (honly : OnlyAt key new loop.reactor after.reactor)
    (hnew : ∀ delivery ∈ new, delivery.key = key ∧ ∃ entry,
      loop.reactor.entry? key = some entry ∧ entry.registration = delivery.registration ∧
        loop.Armed key entry) : loop.Turned new after where
  changed other := by
    by_cases hother : other = key
    · exact hother ▸ hchanged
    · exact .still (hlinks other hother) (hleft other hother) (honly.others other hother)
  exclusive := honly.exclusive
  deliveries := honly.deliveries
  armed delivery hmem := by
    obtain ⟨hkey, hentry⟩ := hnew delivery hmem
    rwa [hkey]

/-- A handle and the reactor after an operation of the handle: the operation moved
the handle and the entry under its key, and nothing else in the reactor. -/
structure Shifted (handle : Handle) (reactor : Reactor) (last : Handle) (left : Reactor) :
    Prop where
  moves : handle.Moves reactor.refusesRemoval (reactor.entry? handle.key) last
    (left.entry? handle.key)
  only : OnlyAt handle.key [] reactor left

theorem Shifted.still (handle : Handle) (reactor : Reactor) :
    Shifted handle reactor handle reactor :=
  ⟨.still, .refl _ _⟩

theorem shifted_of_registering {handle last : Handle} {reactor left : Reactor}
    {wish : EventSlot.Wish} {result : Except LinkError Unit}
    (haccords : handle.Accords (reactor.entry? handle.key)) (hopen : handle.mode ≠ none)
    (h : ∃ events, handle.events.Registering reactor handle.key wish result events left ∧
      last = { handle with events }) : Shifted handle reactor last left := by
  obtain ⟨events, hends, rfl⟩ := h
  exact ⟨haccords.moves_of_registering hopen hends, hends.onlyAt⟩

theorem shifted_of_unregistering {handle last : Handle} {reactor left : Reactor}
    {result : Except LinkError Unit} (haccords : handle.Accords (reactor.entry? handle.key))
    (h : ∃ events, handle.events.Unregistering reactor handle.key result events left ∧
      last = { handle with events }) : Shifted handle reactor last left := by
  obtain ⟨events, hends, rfl⟩ := h
  exact ⟨haccords.moves_of_unregistering hends, hends.onlyAt⟩

/-- An operation of a handle moves it, and changes the entry under its key at most. -/
theorem shifted_of_operation (transport : Transport σ) (operation : Operation)
    (station : Station σ) (reactor : Reactor)
    (haccords : station.handle.Accords (reactor.entry? station.handle.key)) :
    Shifted station.handle reactor
      ((operation.action transport).outcome (station, reactor)).2.1.handle
      ((operation.action transport).outcome (station, reactor)).2.2 := by
  rw [← LinkM.leads_iff_world (operation.action transport) (station, reactor) fun last =>
    Shifted station.handle reactor last.1.handle last.2]
  cases operation with
  | openLink mode =>
      rw [Operation.action, beside, LinkM.leads_within]
      apply (Handle.openLink_leads transport mode station).mono
      · rintro _ after ⟨_, hhandle, _⟩
        rw [hhandle]
        exact ⟨.opened mode, .refl _ _⟩
      · intro _ after hfailed
        rw [hfailed.handle_eq]
        exact .still _ _
  | closeLink =>
      rw [Operation.action, beside, LinkM.leads_within]
      apply (Handle.closeLink_leads transport station).mono
      · rintro _ after ⟨_, hhandle, _⟩
        rw [hhandle]
        exact ⟨.closed, .refl _ _⟩
      · intro _ after hfailed
        cases hfailed with
        | notOpen _ => exact .still _ _
        | transport _ _ => exact ⟨.closed, .refl _ _⟩
  | register wish =>
      apply (Handle.registerForEvents_leads transport wish station reactor).mono
      · rintro _ last ⟨hopen, hends⟩
        exact shifted_of_registering haccords hopen hends
      · rintro _ last (⟨hfailed, hreactor⟩ | ⟨hopen, hends⟩)
        · rw [hfailed.handle_eq, hreactor]
          exact .still _ _
        · exact shifted_of_registering haccords hopen hends
  | unregister =>
      apply (Handle.unregisterFromEvents_leads station reactor).mono
      · intro _ last hends
        exact shifted_of_unregistering haccords hends
      · intro _ last hends
        exact shifted_of_unregistering haccords hends

/-- A use turns the loop under its key alone. -/
theorem turned_of_use (hconsistent : loop.Consistent) (key : Nat) (operation : Operation) :
    loop.Turned [] (loop.use key operation).2 := by
  rw [use]
  cases hlink : loop.links key with
  | none => exact turned_of_aside rfl rfl rfl rfl
  | some link =>
      obtain rfl := hconsistent.own_key key link hlink
      have hshifted := shifted_of_operation link.transport operation
        { handle := link.handle, world := loop.world } loop.reactor
        (hconsistent.accords _ link hlink)
      exact turned_of_changed (.moved _ _ hlink (Function.update_self ..) hshifted.moves)
        (fun _ hother => Function.update_of_ne hother _ _) (fun _ _ => rfl) hshifted.only (by simp)

/-- Dropping a handle leaves its entry to the reactor. -/
theorem turned_of_drop (loop : EventLoop σ) (key : Nat) :
    loop.Turned [] (loop.perform (.drop key)) := by
  rw [perform]
  cases hlink : loop.links key with
  | none => exact turned_of_aside rfl rfl rfl rfl
  | some link =>
      exact turned_of_changed
        (.dropped link hlink (Function.update_self ..) (Function.update_self ..) rfl)
        (fun _ hother => Function.update_of_ne hother _ _)
        (fun _ hother => Function.update_of_ne hother _ _) (.refl _ _) (by simp)

theorem turned_of_fired (hconsistent : loop.Consistent) {observed : Interest}
    {verdict : Option Bool} {flags : FlagStore} {reactor : Reactor}
    (hfired : loop.reactor.Fired (loop.flags key) key observed verdict flags reactor) :
    ∃ new, loop.Turned new { loop.setFlags key flags with reactor } := by
  obtain ⟨new, honly, hnew⟩ := hfired.onlyAt
  refine ⟨new, ?_⟩
  cases hlink : loop.links key with
  | some link =>
      rw [flags_of_some hlink] at hfired
      rw [setFlags_of_some hlink]
      exact turned_of_changed
        (.moved link _ hlink (Function.update_self ..) (Handle.moves_of_fired hfired))
        (fun _ hother => Function.update_of_ne hother _ _) (fun _ _ => rfl) honly hnew
  | none =>
      rw [flags_of_none hlink] at hfired
      rw [setFlags_of_none hlink]
      -- The entry that a dropped handle left behind is inert, so that it does not stay.
      have hgone : (loop.left key).Later flags ∧ reactor.entry? key = none := by
        cases hfired with
        | unheld hnone => exact ⟨.refl _, hnone⟩
        | stays hheld harmed _ _ _ _ =>
            cases (hconsistent.left key _ hlink hheld).2.symm.trans harmed
        | leaves _ _ _ hnone _ => exact ⟨FlagStore.later_clear _ _, hnone⟩
        | inert _ _ hnone _ => exact ⟨FlagStore.later_clear _ _, hnone⟩
      refine turned_of_changed (.unowned hlink hlink ?_ hgone.2) (fun _ _ => rfl)
        (fun _ hother => Function.update_of_ne hother _ _) honly hnew
      simpa using hgone.1

/-- Whatever is done, the loop turns as listed. -/
theorem turned (hconsistent : loop.Consistent) (action : Action σ) :
    ∃ new, loop.Turned new (loop.perform action) := by
  cases action with
  | use key operation => exact ⟨_, turned_of_use hconsistent key operation⟩
  | fire key observed => exact turned_of_fired hconsistent (loop.reactor.fired _ key observed)
  | drop key => exact ⟨_, turned_of_drop loop key⟩
  | refuseRegister => exact ⟨_, turned_of_aside rfl rfl rfl rfl⟩
  | refuseRemoval => exact ⟨_, turned_of_aside rfl rfl rfl rfl⟩
  | meanwhile change => exact ⟨_, turned_of_aside rfl rfl rfl rfl⟩

/-! ### What holds at all times -/

/-- A handle that is there after an action was there before, and moved. -/
theorem Changed.moves (h : loop.Changed key after) {next : Link σ}
    (hnext : after.links key = some next) :
    ∃ link, loop.links key = some link ∧
      link.handle.Moves loop.reactor.refusesRemoval (loop.reactor.entry? key) next.handle
        (after.reactor.entry? key) := by
  cases h with
  | still hlinks _ hentry => exact ⟨next, hlinks.symm.trans hnext, hentry ▸ .still⟩
  | dropped _ _ hgone _ _ => cases hgone.symm.trans hnext
  | unowned _ hstill _ _ => cases hstill.symm.trans hnext
  | moved link _ hlink hmoved hmoves =>
      cases hmoved.symm.trans hnext
      exact ⟨link, hlink, hmoves⟩

/-- The entry of a dropped handle is disarmed when the handle goes, and stays so. -/
theorem Changed.left (h : loop.Changed key after) (hconsistent : loop.Consistent)
    (hnone : after.links key = none) {entry : Entry}
    (hentry : after.reactor.entry? key = some entry) :
    entry.registration < (after.left key).count ∧
      (after.left key).isArmed entry.registration = false := by
  cases h with
  | still hlinks hleft hsame =>
      rw [hleft]
      exact hconsistent.left key entry (hlinks.symm.trans hnone) (hsame.symm.trans hentry)
  | dropped link hlink _ hleft hsame =>
      have haccords := hconsistent.accords key link hlink
      have hheld := hsame.symm.trans hentry
      rw [hleft]
      exact ⟨Nat.lt_of_lt_of_le (haccords.entry_issued entry hheld)
        link.handle.events.later_disarm.count_le, haccords.inert_of_disarm hheld⟩
  | unowned _ _ _ hgone => cases hgone.symm.trans hentry
  | moved _ _ _ hnext _ => cases hnext.symm.trans hnone

/-- One action keeps what holds at all times. -/
theorem Consistent.perform (hconsistent : loop.Consistent) (action : Action σ) :
    (loop.perform action).Consistent := by
  obtain ⟨new, hturned⟩ := turned hconsistent action
  constructor
  · exact hturned.exclusive hconsistent.exclusive
  · intro key next hnext
    obtain ⟨link, hlink, hmoves⟩ := (hturned.changed key).moves hnext
    rw [hmoves.key_eq, hconsistent.own_key key link hlink]
  · intro key next hnext
    obtain ⟨link, hlink, hmoves⟩ := (hturned.changed key).moves hnext
    exact hmoves.accords (hconsistent.accords key link hlink)
  · intro key entry hnone hentry
    exact (hturned.changed key).left hconsistent hnone hentry

theorem Consistent.run (hconsistent : loop.Consistent) (actions : List (Action σ)) :
    (loop.run actions).Consistent := by
  induction actions generalizing loop with
  | nil => exact hconsistent
  | cons action rest ih => exact ih (hconsistent.perform action)

theorem consistent_start (transports : Nat → Transport σ) (connections : Nat → Connection)
    (world : σ) : (start transports connections world).Consistent := by
  constructor
  · exact List.nodup_nil
  · intro key link hlink
    cases hlink
    rfl
  · intro key link hlink
    cases hlink
    exact .fresh rfl
  · intro _ _ _ hentry
    cases hentry

/-- A handle has a registration exactly if there is an armed entry under its key. -/
theorem Consistent.active_iff (hconsistent : loop.Consistent) {link : Link σ}
    (hlink : loop.links key = some link) :
    link.handle.hasRegistration = true ↔
      ∃ entry, loop.reactor.entry? key = some entry ∧ loop.Armed key entry := by
  rw [(hconsistent.accords key link hlink).active_iff]
  simp only [Armed, flags_of_some hlink]

theorem Consistent.unarmed_of_none (hconsistent : loop.Consistent) (hnone : loop.links key = none)
    {entry : Entry} (hentry : loop.reactor.entry? key = some entry) : ¬loop.Armed key entry := by
  rw [Armed, flags_of_none hnone, (hconsistent.left key entry hnone hentry).2]
  exact Bool.false_ne_true

/-! ### Registrations that ended -/

def Issued (loop : EventLoop σ) (key number : Nat) : Prop := number < (loop.flags key).count

/-- A registration that was attempted is not armed, if there still is an entry for it. -/
structure Ended (loop : EventLoop σ) (key number : Nat) : Prop where
  issued : loop.Issued key number
  unarmed : ∀ entry, loop.reactor.entry? key = some entry → entry.registration = number →
    ¬loop.Armed key entry

theorem Consistent.issued (hconsistent : loop.Consistent) {entry : Entry}
    (hentry : loop.reactor.entry? key = some entry) : loop.Issued key entry.registration := by
  cases hlink : loop.links key with
  | some link =>
      rw [Issued, flags_of_some hlink]
      exact (hconsistent.accords key link hlink).entry_issued entry hentry
  | none =>
      rw [Issued, flags_of_none hlink]
      exact (hconsistent.left key entry hlink hentry).1

/-- No flags are lost when a handle is dropped, and nothing arms a registration again. -/
theorem Changed.later (h : loop.Changed key after) : (loop.flags key).Later (after.flags key) := by
  cases h with
  | still hlinks hleft _ =>
      rw [flags, flags, hlinks, hleft]
      exact .refl _
  | dropped link hlink hgone hleft _ =>
      rw [flags_of_some hlink, flags_of_none hgone, hleft]
      exact link.handle.events.later_disarm
  | unowned hnone hstill hlater _ => rwa [flags_of_none hnone, flags_of_none hstill]
  | moved link next hlink hnext hmoves =>
      rw [flags_of_some hlink, flags_of_some hnext]
      exact hmoves.later

/-- An entry that is not new was there before, for the same registration. -/
theorem Changed.entry_before (h : loop.Changed key after) {entry : Entry}
    (hentry : after.reactor.entry? key = some entry)
    (hissued : loop.Issued key entry.registration) :
    ∃ old, loop.reactor.entry? key = some old ∧ old.registration = entry.registration := by
  cases h with
  | still _ _ hsame => exact ⟨entry, hsame.symm.trans hentry, rfl⟩
  | dropped _ _ _ _ hsame => exact ⟨entry, hsame.symm.trans hentry, rfl⟩
  | unowned _ _ _ hgone => cases hgone.symm.trans hentry
  | moved link _ hlink _ hmoves =>
      rw [Issued, flags_of_some hlink] at hissued
      exact hmoves.entry_before hentry hissued

theorem Issued.changed (h : loop.Issued key number) (hchanged : loop.Changed key after) :
    after.Issued key number :=
  Nat.lt_of_lt_of_le h hchanged.later.count_le

/-- A registration that has ended does not come back, whatever one action changes under
its key. -/
theorem Ended.changed (h : loop.Ended key number) (hchanged : loop.Changed key after) :
    after.Ended key number where
  issued := h.issued.changed hchanged
  unarmed := by
    rintro entry hentry rfl harmed
    obtain ⟨old, hold, hsame⟩ := hchanged.entry_before hentry h.issued
    have hbefore := hchanged.later.armed entry.registration h.issued harmed
    rw [← hsame] at hbefore
    exact h.unarmed old hold hsame hbefore

theorem Ended.perform (hconsistent : loop.Consistent) (hended : loop.Ended key number)
    (action : Action σ) : (loop.perform action).Ended key number := by
  obtain ⟨new, hturned⟩ := turned hconsistent action
  exact hended.changed (hturned.changed key)

/-- The callback of a registration that ended is never run again. -/
theorem Ended.silent_run (hconsistent : loop.Consistent) (hended : loop.Ended key number)
    (actions : List (Action σ)) :
    ∃ new, (loop.run actions).reactor.deliveries = loop.reactor.deliveries ++ new ∧
      ∀ delivery ∈ new, delivery.key = key → delivery.registration ≠ number := by
  induction actions generalizing loop with
  | nil => exact ⟨[], (List.append_nil _).symm, by simp⟩
  | cons action rest ih =>
      obtain ⟨first, hturned⟩ := turned hconsistent action
      obtain ⟨more, hmore, hothers⟩ := ih (hconsistent.perform action)
        (hended.perform hconsistent action)
      refine ⟨first ++ more, ?_, ?_⟩
      · rw [run, List.foldl_cons, ← run, hmore, hturned.deliveries, List.append_assoc]
      · rintro delivery hmem rfl
        rcases List.mem_append.mp hmem with hin | hin
        · obtain ⟨entry, hentry, hnumber, harmed⟩ := hturned.armed delivery hin
          rintro rfl
          exact hended.unarmed entry hentry hnumber harmed
        · exact hothers delivery hin rfl

/-- The actions that end the registration of a handle, if it has one. -/
inductive Ends (loop : EventLoop σ) (key : Nat) : Action σ → Prop
  | close : Ends loop key (.use key .closeLink)
  | unregister : Ends loop key (.use key .unregister)
  | drop : Ends loop key (.drop key)
  | declined (observed : Interest) (hverdict : (loop.fire key observed).1 = some false) :
      Ends loop key (.fire key observed)

theorem links_use (loop : EventLoop σ) (key : Nat) (operation : Operation) :
    (loop.use key operation).2.links key = (loop.links key).map fun link =>
      { link with
        handle := ((operation.action link.transport).outcome
          ({ handle := link.handle, world := loop.world }, loop.reactor)).2.1.handle } := by
  cases hlink : loop.links key with
  | none => simp [use, hlink]
  | some link => simp [use, hlink]

/-- Closing leaves no registration, also if it fails. -/
theorem inactive_of_close (transport : Transport σ) (station : Station σ) (reactor : Reactor)
    {held : Option Entry} (haccords : station.handle.Accords held) :
    ((Operation.closeLink.action transport).outcome
      (station, reactor)).2.1.handle.hasRegistration = false := by
  rw [← LinkM.leads_iff_world (Operation.closeLink.action transport) (station, reactor) fun last =>
      last.1.handle.hasRegistration = false,
    Operation.action, beside, LinkM.leads_within]
  apply (Handle.closeLink_leads transport station).mono
  · rintro _ after ⟨_, hhandle, _⟩
    rw [hhandle]
    exact EventSlot.isActive_disarm _
  · intro _ after hfailed
    cases hfailed with
    | notOpen hclosed => exact haccords.inactive_of_closed hclosed
    | transport _ _ => exact EventSlot.isActive_disarm _

/-- Unregistering leaves no registration, also if it fails. -/
theorem inactive_of_unregister (transport : Transport σ) (station : Station σ)
    (reactor : Reactor) :
    ((Operation.unregister.action transport).outcome
      (station, reactor)).2.1.handle.hasRegistration = false := by
  rw [← LinkM.leads_iff_world (Operation.unregister.action transport) (station, reactor) fun last =>
      last.1.handle.hasRegistration = false,
    Operation.action]
  apply (Handle.unregisterFromEvents_leads station reactor).mono
  · rintro _ last ⟨events, hends, hhandle⟩
    rw [hhandle]
    exact hends.inactive
  · rintro _ last ⟨events, hends, hhandle⟩
    rw [hhandle]
    exact hends.inactive

/-- A handle that ended its registration has none. -/
theorem Ends.inactive {action : Action σ} (hconsistent : loop.Consistent)
    (h : loop.Ends key action) {entry : Entry}
    (hentry : (loop.perform action).reactor.entry? key = some entry) {next : Link σ}
    (hnext : (loop.perform action).links key = some next) :
    next.handle.hasRegistration = false := by
  cases h with
  | close =>
      rw [EventLoop.perform, links_use] at hnext
      obtain ⟨link, hlink, rfl⟩ := Option.map_eq_some_iff.mp hnext
      exact inactive_of_close link.transport _ _ (hconsistent.accords key link hlink)
  | unregister =>
      rw [EventLoop.perform, links_use] at hnext
      obtain ⟨link, _, rfl⟩ := Option.map_eq_some_iff.mp hnext
      exact inactive_of_unregister link.transport _ _
  | drop =>
      rw [EventLoop.perform] at hnext
      split at hnext
      · next hnone => cases hnone.symm.trans hnext
      · simp at hnext
  | declined observed hverdict =>
      have hfired := loop.reactor.fired (loop.flags key) key observed
      rw [show (loop.reactor.fire (loop.flags key) key observed).1 = some false from
        hverdict] at hfired
      cases hfired.gone.symm.trans hentry

/-- Whatever ends a registration, an entry that is still there is not armed. -/
theorem Ends.unarmed {action : Action σ} (hconsistent : loop.Consistent) (h : loop.Ends key action)
    {entry : Entry} (hentry : (loop.perform action).reactor.entry? key = some entry) :
    ¬(loop.perform action).Armed key entry := by
  have hafter := hconsistent.perform action
  intro harmed
  cases hnext : (loop.perform action).links key with
  | none => exact hafter.unarmed_of_none hnext hentry harmed
  | some next =>
      have hactive := (hafter.active_iff hnext).mpr ⟨entry, hentry, harmed⟩
      cases (h.inactive hconsistent hentry hnext).symm.trans hactive

theorem Ends.ended {action : Action σ} (hconsistent : loop.Consistent) (h : loop.Ends key action)
    (hissued : loop.Issued key number) : (loop.perform action).Ended key number := by
  obtain ⟨new, hturned⟩ := turned hconsistent action
  exact ⟨hissued.changed (hturned.changed key), fun _ hentry _ => h.unarmed hconsistent hentry⟩

/-! ### Firing -/

/-- What firing under a key comes to.  The callback is run if and only if there is
an entry whose callback is armed, and the entry is removed if and only if the
answer is that it did not stay. -/
structure Fires (loop : EventLoop σ) (key : Nat) (observed : Interest) (verdict : Option Bool)
    (after : EventLoop σ) : Prop where
  answers_iff : verdict ≠ none ↔ loop.reactor.entry? key ≠ none
  runs : ∀ entry, loop.reactor.entry? key = some entry → loop.Armed key entry →
    verdict = some (entry.verdicts.headD true) ∧ after.reactor.deliveries =
      loop.reactor.deliveries ++ [{ key, registration := entry.registration, observed }]
  silent : (∀ entry, loop.reactor.entry? key = some entry → ¬loop.Armed key entry) →
    verdict ≠ some true ∧ after.reactor.deliveries = loop.reactor.deliveries
  removes_iff : loop.reactor.entry? key ≠ none ∧ after.reactor.entry? key = none ↔
    verdict = some false
  others : ∀ other, other ≠ key → after.reactor.entry? other = loop.reactor.entry? other

/-- Every firing ends in one of the ways listed. -/
theorem fires (loop : EventLoop σ) (key : Nat) (observed : Interest) :
    loop.Fires key observed (loop.fire key observed).1 (loop.fire key observed).2 := by
  have hfired := loop.reactor.fired (loop.flags key) key observed
  rw [fire]
  generalize loop.reactor.fire (loop.flags key) key observed = ends at hfired ⊢
  obtain ⟨verdict, flags, reactor⟩ := ends
  cases hfired with
  | unheld hnone => constructor <;> simp [hnone]
  | stays hheld harmed hverdict hnext _ honly =>
      constructor
      · simp [hheld]
      · intro entry hentry _
        cases hheld.symm.trans hentry
        exact ⟨by rw [hverdict], honly.deliveries⟩
      · intro hnever
        exact absurd harmed (hnever _ hheld)
      · simp [hnext]
      · exact honly.others
  | leaves hheld harmed hverdict hgone honly =>
      constructor
      · simp [hheld]
      · intro entry hentry _
        cases hheld.symm.trans hentry
        exact ⟨by rw [hverdict], honly.deliveries⟩
      · intro hnever
        exact absurd harmed (hnever _ hheld)
      · simp [hheld, hgone]
      · exact honly.others
  | inert hheld hinert hgone honly =>
      constructor
      · simp [hheld]
      · intro entry hentry harmed
        cases hheld.symm.trans hentry
        cases hinert.symm.trans harmed
      · intro _
        exact ⟨by simp, honly.deliveries.trans (List.append_nil _)⟩
      · simp [hheld, hgone]
      · exact honly.others

/-- Event registrations are exclusive, and inert once they ended.  Whatever was
done to the handles and whichever calls the reactor refused: there is one entry
under a key at most; a handle has a registration exactly if there is an entry
under its key whose callback is armed, and a dropped handle leaves none that is;
firing runs exactly such a callback; and after a close, a drop, an unregistering,
successful or not, or a callback that declined, no callback that was registered
before is ever run again. -/
theorem registrations_exclusive_and_final (transports : Nat → Transport σ)
    (connections : Nat → Connection) (world : σ) (actions : List (Action σ)) :
    let loop := (start transports connections world).run actions
    loop.reactor.Exclusive ∧
      (∀ key link, loop.links key = some link →
        (link.handle.hasRegistration = true ↔
          ∃ entry, loop.reactor.entry? key = some entry ∧ loop.Armed key entry)) ∧
      (∀ key entry, loop.reactor.entry? key = some entry →
        loop.Issued key entry.registration ∧
          (loop.links key = none → ¬loop.Armed key entry)) ∧
      (∀ key observed,
        loop.Fires key observed (loop.fire key observed).1 (loop.fire key observed).2) ∧
      ∀ action key number, loop.Ends key action → loop.Issued key number → ∀ more, ∃ new,
        ((loop.perform action).run more).reactor.deliveries =
            (loop.perform action).reactor.deliveries ++ new ∧
          ∀ delivery ∈ new, delivery.key = key → delivery.registration ≠ number := by
  intro loop
  have hconsistent : loop.Consistent := (consistent_start transports connections world).run actions
  refine ⟨hconsistent.exclusive, ?_, ?_, loop.fires, ?_⟩
  · intro key link hlink
    exact hconsistent.active_iff hlink
  · intro key entry hentry
    exact ⟨hconsistent.issued hentry, fun hnone => hconsistent.unarmed_of_none hnone hentry⟩
  · intro action key number hends hissued more
    exact (hends.ended hconsistent hissued).silent_run (hconsistent.perform action) more

/-- An unregistering that was refused, after which the entry is still there: firing
takes it away without running the callback, and only the registration made anew
is delivered to. -/
theorem registrations_exclusive_and_final_refused :
    let loop := (start (fun _ => Scripted.transport) (fun _ => .serial "/dev/ttyS0") {}).run
      [.use 0 (.openLink .readWrite), .use 0 (.register { interest := .readable }), .refuseRemoval]
    let ended := loop.perform (.use 0 .unregister)
    let later := ended.run
      [.fire 0 .readable, .use 0 (.register { interest := .readable }), .fire 0 .readable]
    loop.Ends 0 (.use 0 .unregister) ∧ loop.Issued 0 0 ∧
      (ended.reactor.entry? 0).map Entry.registration = some 0 ∧
      later.reactor.deliveries = [{ key := 0, registration := 1, observed := .readable }] ∧
      ∃ new, later.reactor.deliveries = ended.reactor.deliveries ++ new ∧
        ∀ delivery ∈ new, delivery.key = 0 → delivery.registration ≠ 0 := by
  intro loop ended later
  have hissued : loop.Issued 0 0 := Nat.zero_lt_one
  obtain ⟨_, _, _, _, hfinal⟩ := registrations_exclusive_and_final (fun _ => Scripted.transport)
    (fun _ => .serial "/dev/ttyS0") {}
    [.use 0 (.openLink .readWrite), .use 0 (.register { interest := .readable }), .refuseRemoval]
  exact ⟨.unregister, hissued, rfl, rfl, hfinal _ 0 0 .unregister hissued _⟩

end EventLoop

end InstrumentLink
