import InstrumentLink.Proofs.EventLoop

/-!
# Refused removals

A handle gives up its record of a registration when it asks the reactor to
remove the entry, before it knows the answer.  If the reactor refuses, the
entry is orphaned: the handle can neither unregister it nor register anew,
although the reactor would agree by then.  Nothing else orphans an entry, and
a handle whose entry is not orphaned can always do both.
-/

namespace InstrumentLink

open Reactor (Entry OnlyAt)

structure Reactor.Accepts (reactor : Reactor) : Prop where
  registers : reactor.refusesRegister = false
  removes : reactor.refusesRemoval = false

namespace Handle

open LinkM

variable {σ : Type} {handle : Handle} {reactor last : Reactor} {key : Nat}
  {wish : EventSlot.Wish} {result : Except LinkError Unit} {events : EventSlot}

/-- There is an entry, but no record of it. -/
def Orphans (handle : Handle) (held : Option Entry) : Prop :=
  held ≠ none ∧ handle.events.record = none

/-- An accepting reactor removes the entry of a handle, unless it is orphaned. -/
theorem unregistered_of_accepts (haccepts : reactor.Accepts) (hheld : reactor.entry? key ≠ none)
    (haccords : handle.Accords (reactor.entry? key))
    (h : handle.events.Unregistering reactor key result events last) :
    ¬handle.Orphans (reactor.entry? key) ∧ result = .ok () ∧ last.entry? key = none ∨
      handle.Orphans (reactor.entry? key) ∧
        result = .error (.argument (.noRegistration key)) ∧ last = reactor := by
  cases h with
  | noRecord hnone => exact .inr ⟨⟨hheld, hnone⟩, rfl, rfl⟩
  | asked hrecord _ hends =>
      left
      refine ⟨fun horphans => Option.some_ne_none _ (hrecord.symm.trans horphans.2), ?_⟩
      cases hends with
      | refused hrefuses => simp [haccepts.removes] at hrefuses
      | gone _ _ => exact ⟨rfl, reactor.entry?_without_self key⟩
      | unknown _ hnone => exact absurd hnone hheld
  | gone hrecord hout =>
      have hin := (haccords.tells _ hrecord).inReactor_iff.mpr hheld
      simp [hout] at hin

/-- An accepting reactor takes the new entry of a handle in place of the old one,
unless that one is orphaned. -/
theorem registered_of_accepts (haccepts : reactor.Accepts)
    (hinactive : handle.hasRegistration = false) (hinterest : wish.interest.isEmpty = false)
    (haccords : handle.Accords (reactor.entry? key))
    (h : handle.events.Registering reactor key wish result events last) :
    ¬handle.Orphans (reactor.entry? key) ∧ result = .ok () ∧
        last.entry? key = some (handle.events.entryFor key wish) ∨
      handle.Orphans (reactor.entry? key) ∧
        result = .error (.argument (.keyTaken key)) ∧ last = reactor := by
  have hunswept (hnone : handle.events.record = none) :
      (handle.events.clearStale reactor key).2 = reactor := by
    simp [EventSlot.clearStale, hnone]
  cases h with
  | active hactive => simp [hasRegistration, hactive] at hinactive
  | noInterest _ hempty => simp [hempty] at hinterest
  | failed _ _ hfails =>
      right
      cases hfails with
      | refused hrefuses =>
          have hrefused := (handle.events.clearStale_onlyAt reactor key).refusesRegister hrefuses
          simp [haccepts.registers] at hrefused
      | taken _ htaken =>
          obtain hnone | ⟨hsame, hfalse | hnone⟩ := haccords.cleared
          · exact absurd hnone htaken
          · simp [haccepts.removes] at hfalse
          · have hheld : reactor.entry? key ≠ none := fun h => htaken (hsame.trans h)
            exact ⟨⟨hheld, hnone⟩, rfl, hunswept hnone⟩
  | made _ _ hmade =>
      left
      cases hmade with
      | added _ hfree =>
          refine ⟨?_, rfl, (Reactor.entry?_of_added hfree key).trans (if_pos rfl)⟩
          rintro ⟨hheld, hnone⟩
          rw [hunswept hnone] at hfree
          exact hheld hfree

theorem unregistering_of_outcome (station : Station σ) (reactor : Reactor) :
    ∃ events, station.handle.events.Unregistering reactor station.handle.key
      (unregisterFromEvents.outcome (station, reactor)).1 events
      (unregisterFromEvents.outcome (station, reactor)).2.2 := by
  rw [← leads_iff_outcome unregisterFromEvents (station, reactor) fun result last =>
    ∃ events, station.handle.events.Unregistering reactor station.handle.key result events last.2]
  apply (unregisterFromEvents_leads station reactor).mono
  · rintro _ _ ⟨events, hends, _⟩
    exact ⟨events, hends⟩
  · rintro _ _ ⟨events, hends, _⟩
    exact ⟨events, hends⟩

/-- With something to wait on, it is the slot and the reactor that decide. -/
theorem registering_of_source (transport : Transport σ) (wish : EventSlot.Wish)
    (station : Station σ) (reactor : Reactor) (hopen : station.handle.mode ≠ none)
    {source : Nat} {world : σ} (hsource : transport.eventSource station.world = .ok source world) :
    ∃ events, station.handle.events.Registering reactor station.handle.key wish
      ((registerForEvents transport wish).outcome (station, reactor)).1 events
      ((registerForEvents transport wish).outcome (station, reactor)).2.2 := by
  rw [← leads_iff_outcome (registerForEvents transport wish) (station, reactor) fun result last =>
    ∃ events, station.handle.events.Registering reactor station.handle.key wish result events
      last.2]
  apply (registerForEvents_leads transport wish station reactor).mono
  · rintro _ _ ⟨_, events, hends, _⟩
    exact ⟨events, hends⟩
  · rintro error ⟨after, left⟩ (⟨hfailed, _⟩ | ⟨_, events, hends, _⟩)
    · cases hfailed with
      | notOpen hclosed => exact absurd hclosed hopen
      | transport hfails => cases hsource.symm.trans hfails
    · exact ⟨events, hends⟩

end Handle

namespace EventLoop

open LinkM

variable {σ : Type} {loop : EventLoop σ} {key : Nat} {link : Link σ}

def Orphaned (loop : EventLoop σ) (key : Nat) : Prop :=
  ∃ link, loop.links key = some link ∧ link.handle.Orphans (loop.reactor.entry? key)

theorem use_unregister (hconsistent : loop.Consistent) (hlink : loop.links key = some link) :
    ∃ result events after, loop.use key .unregister = (some result, after) ∧
      link.handle.events.Unregistering loop.reactor key result events after.reactor := by
  obtain rfl := hconsistent.own_key key link hlink
  obtain ⟨events, hends⟩ := Handle.unregistering_of_outcome
    { handle := link.handle, world := loop.world } loop.reactor
  rw [use, hlink]
  exact ⟨_, events, _, rfl, hends⟩

theorem use_register (hconsistent : loop.Consistent) (hlink : loop.links key = some link)
    (hopen : link.handle.mode ≠ none) {source : Nat} {last : σ}
    (hsource : link.transport.eventSource loop.world = .ok source last) (wish : EventSlot.Wish) :
    ∃ result events after, loop.use key (.register wish) = (some result, after) ∧
      link.handle.events.Registering loop.reactor key wish result events after.reactor := by
  obtain rfl := hconsistent.own_key key link hlink
  obtain ⟨events, hends⟩ := Handle.registering_of_source link.transport wish
    { handle := link.handle, world := loop.world } loop.reactor hopen hsource
  rw [use, hlink]
  exact ⟨_, events, _, rfl, hends⟩

/-- A removal is refused only on demand. -/
theorem refusesRemoval_perform (hconsistent : loop.Consistent) {action : Action σ}
    (haction : action ≠ .refuseRemoval) (hremoves : loop.reactor.refusesRemoval = false) :
    (loop.perform action).reactor.refusesRemoval = false := by
  have hkeeps {key : Nat} {new : List Reactor.Delivery} {after : Reactor}
      (honly : OnlyAt key new loop.reactor after) : after.refusesRemoval = false := by
    by_contra hrefuses
    rw [Bool.not_eq_false] at hrefuses
    rw [honly.refusesRemoval hrefuses] at hremoves
    cases hremoves
  cases action with
  | use key operation =>
      rw [perform, use]
      cases hlink : loop.links key with
      | none => exact hremoves
      | some link =>
          obtain rfl := hconsistent.own_key key link hlink
          exact hkeeps (shifted_of_operation link.transport operation
            { handle := link.handle, world := loop.world } loop.reactor
            (hconsistent.accords _ link hlink)).only
  | drop key =>
      rw [perform]
      cases loop.links key with
      | none => exact hremoves
      | some link => exact hremoves
  | fire key observed =>
      obtain ⟨new, honly, _⟩ := (loop.reactor.fired (loop.flags key) key observed).onlyAt
      exact hkeeps honly
  | refuseRegister => exact hremoves
  | refuseRemoval => exact absurd rfl haction
  | meanwhile change => exact hremoves

/-- No entry is orphaned, and the next removal is not refused. -/
structure Accounted (loop : EventLoop σ) : Prop where
  consistent : loop.Consistent
  removes : loop.reactor.refusesRemoval = false
  records : ∀ key, ¬loop.Orphaned key

theorem Accounted.perform (h : loop.Accounted) {action : Action σ}
    (haction : action ≠ .refuseRemoval) : (loop.perform action).Accounted where
  consistent := h.consistent.perform action
  removes := refusesRemoval_perform h.consistent haction h.removes
  records := by
    rintro key ⟨next, hnext, hheld, hnone⟩
    obtain ⟨new, hturned⟩ := turned h.consistent action
    obtain ⟨link, hlink, hmoves⟩ := (hturned.changed key).moves hnext
    rw [h.removes] at hmoves
    exact hmoves.record_ne_none
      (fun hbefore hrecord => h.records key ⟨link, hlink, hbefore, hrecord⟩)
      hheld hnone

theorem Accounted.run (h : loop.Accounted) {actions : List (Action σ)}
    (hactions : .refuseRemoval ∉ actions) : (loop.run actions).Accounted := by
  induction actions generalizing loop with
  | nil => exact h
  | cons action rest ih =>
      rw [List.mem_cons, not_or] at hactions
      exact ih (h.perform (Ne.symm hactions.1)) hactions.2

theorem accounted_start (transports : Nat → Transport σ) (connections : Nat → Connection)
    (world : σ) : (start transports connections world).Accounted where
  consistent := consistent_start transports connections world
  removes := rfl
  records := by
    rintro key ⟨link, _, hheld, _⟩
    exact hheld rfl

/-- A handle gets rid of the entry under its key, and registers anew in place of it,
as soon as the reactor accepts calls, unless the entry is orphaned; then it can do
neither.  An entry is never orphaned unless a removal was refused. -/
theorem recovers_unless_orphaned (transports : Nat → Transport σ)
    (connections : Nat → Connection) (world : σ) (actions : List (Action σ)) :
    let loop := (start transports connections world).run actions
    (.refuseRemoval ∉ actions → ∀ key, ¬loop.Orphaned key) ∧
      ∀ key link, loop.links key = some link → loop.reactor.Accepts →
        (loop.reactor.entry? key ≠ none →
          (¬loop.Orphaned key → ∃ after, loop.use key .unregister = (some (.ok ()), after) ∧
            after.reactor.entry? key = none) ∧
          (loop.Orphaned key → ∃ after, loop.use key .unregister =
            (some (.error (.argument (.noRegistration key))), after) ∧
            after.reactor = loop.reactor)) ∧
        ∀ wish source last, link.handle.isOpen = true → link.handle.hasRegistration = false →
          wish.interest.isEmpty = false →
          link.transport.eventSource loop.world = .ok source last →
          (¬loop.Orphaned key → ∃ after, loop.use key (.register wish) = (some (.ok ()), after) ∧
            after.reactor.entry? key = some (link.handle.events.entryFor key wish)) ∧
          (loop.Orphaned key → ∃ after, loop.use key (.register wish) =
            (some (.error (.argument (.keyTaken key))), after) ∧
            after.reactor = loop.reactor) := by
  intro loop
  have hconsistent : loop.Consistent := (consistent_start transports connections world).run actions
  constructor
  · intro hactions
    exact ((accounted_start transports connections world).run hactions).records
  intro key link hlink haccepts
  have haccords := hconsistent.accords key link hlink
  have horphaned : loop.Orphaned key ↔ link.handle.Orphans (loop.reactor.entry? key) := by
    simp [Orphaned, hlink]
  rw [horphaned]
  constructor
  · intro hheld
    obtain ⟨result, events, after, huse, hends⟩ := use_unregister hconsistent hlink
    rcases Handle.unregistered_of_accepts haccepts hheld haccords hends with
      ⟨hnot, rfl, hgone⟩ | ⟨horphans, rfl, hsame⟩
    · exact ⟨fun _ => ⟨after, huse, hgone⟩, fun horphans => absurd horphans hnot⟩
    · exact ⟨fun hnot => absurd horphans hnot, fun _ => ⟨after, huse, hsame⟩⟩
  · intro wish source last hopen hinactive hinterest hsource
    obtain ⟨result, events, after, huse, hends⟩ :=
      use_register hconsistent hlink ((Handle.isOpen_iff _).mp hopen) hsource wish
    rcases Handle.registered_of_accepts haccepts hinactive hinterest haccords hends with
      ⟨hnot, rfl, hentry⟩ | ⟨horphans, rfl, hsame⟩
    · exact ⟨fun _ => ⟨after, huse, hentry⟩, fun horphans => absurd horphans hnot⟩
    · exact ⟨fun hnot => absurd horphans hnot, fun _ => ⟨after, huse, hsame⟩⟩

/-- The entry that a closed and reopened handle left behind: it can be unregistered,
and it can be replaced. -/
theorem recovers_unless_orphaned_reopened :
    let actions : List (Action Scripted.State) :=
      [.use 0 (.openLink .readWrite), .use 0 (.register { interest := .readable }),
        .use 0 .closeLink, .use 0 (.openLink .readOnly)]
    let loop := (start (fun _ => Scripted.transport) (fun _ => .serial "/dev/ttyS0") {}).run actions
    loop.reactor.Accepts ∧ loop.reactor.entry? 0 ≠ none ∧ ¬loop.Orphaned 0 ∧
      (∃ after, loop.use 0 .unregister = (some (.ok ()), after) ∧
        after.reactor.entry? 0 = none) ∧
      ∃ after, loop.use 0 (.register { interest := .writable }) = (some (.ok ()), after) ∧
        after.reactor.entry? 0 = some
          { key := 0, registration := 1, interest := .writable
            timeout := none, verdicts := [] } := by
  intro actions loop
  obtain ⟨hrecords, hrecovers⟩ := recovers_unless_orphaned (fun _ => Scripted.transport)
    (fun _ => .serial "/dev/ttyS0") {} actions
  have hactions : .refuseRemoval ∉ actions := by
    simp [actions]
  have haccepts : loop.reactor.Accepts := ⟨rfl, rfl⟩
  have hheld : loop.reactor.entry? 0 ≠ none := by
    decide
  have hrecorded := hrecords hactions 0
  obtain ⟨hunregisters, hregisters⟩ := hrecovers 0 _ rfl haccepts
  exact ⟨haccepts, hheld, hrecorded, (hunregisters hheld).1 hrecorded,
    (hregisters { interest := .writable } 0 _ rfl rfl rfl rfl).1 hrecorded⟩

/-- After one refused removal the reactor accepts calls again and still holds the
entry, but the handle can neither remove nor replace it. -/
theorem refused_removal_orphans :
    let loop := (start (fun _ => Scripted.transport) (fun _ => .serial "/dev/ttyS0") {}).run
      [.use 0 (.openLink .readWrite), .use 0 (.register { interest := .readable }),
        .refuseRemoval, .use 0 .unregister]
    loop.reactor.Accepts ∧ loop.reactor.entry? 0 ≠ none ∧
      (loop.use 0 .unregister).1 = some (.error (.argument (.noRegistration 0))) ∧
      (loop.use 0 .unregister).2.reactor.entry? 0 ≠ none ∧
      (loop.use 0 (.register { interest := .readable })).1 =
        some (.error (.argument (.keyTaken 0))) := by
  refine ⟨⟨rfl, rfl⟩, ?_, rfl, ?_, rfl⟩
  · decide
  · decide

end EventLoop

end InstrumentLink
