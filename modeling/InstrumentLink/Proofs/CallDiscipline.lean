import InstrumentLink.Proofs.HandleMoves

/-!
# The discipline of a handle

Every operation of a handle, of a framed link and of a device keeps the calls
of the transport in order.  All that a call of a recorded transport says is that
it was made and that the session permits it; so whatever relation between stations
is respected by such calls is respected by everything that is made of moves.
-/

namespace InstrumentLink

open LinkM Station
open Transport (Operation Call Orderly session orderly_concat session_concat)

variable {σ τ α β : Type} {number : Nat}

/-- The calls that the transport of a handle saw were in order, and they led to
the session that the handle is in. -/
structure Tracked (number : Nat) (station : Station (Recorded σ)) : Prop where
  orderly : Orderly (station.world.callsOf number)
  session_eq : session (station.world.callsOf number) = station.handle.mode

/-- From one station to a later one the calls of its transport stay in order, no
other transport is called or made, and none is given up. -/
structure Kept (number : Nat) (before after : Station (Recorded σ)) : Prop where
  tracked : Tracked number before → Tracked number after
  others : ∀ other, other ≠ number → after.world.callsOf other = before.world.callsOf other
  created : after.world.created = before.world.created
  released : after.world.released = before.world.released

section Kept

variable {before between after : Station (Recorded σ)}

theorem Kept.trans (hfirst : Kept number before between) (hmore : Kept number between after) :
    Kept number before after where
  tracked := hmore.tracked ∘ hfirst.tracked
  others other hother := (hmore.others other hother).trans (hfirst.others other hother)
  created := hmore.created.trans hfirst.created
  released := hmore.released.trans hfirst.released

theorem kept_of_eq (hmode : after.handle.mode = before.handle.mode)
    (hcalls : ∀ other, after.world.callsOf other = before.world.callsOf other)
    (hcreated : after.world.created = before.world.created)
    (hreleased : after.world.released = before.world.released) : Kept number before after where
  tracked htracked :=
    { orderly := by rw [hcalls]; exact htracked.orderly
      session_eq := by rw [hcalls, hmode]; exact htracked.session_eq }
  others other _ := hcalls other
  created := hcreated
  released := hreleased

theorem Kept.refl (number : Nat) (station : Station (Recorded σ)) : Kept number station station :=
  kept_of_eq rfl (fun _ => rfl) rfl rfl

/-- A call that the session of the handle permits, with the handle left in the
session that the call leads to. -/
theorem kept_of_note (operation : Operation) (succeeded : Bool) {world : σ}
    (hpermitted : operation.Permitted before.handle.mode)
    (hmode : after.handle.mode = Call.next { operation, succeeded } before.handle.mode)
    (hworld : after.world = before.world.note number { operation, succeeded } world) :
    Kept number before after where
  tracked htracked := by
    constructor
    · rw [hworld, Recorded.callsOf_note]
      apply orderly_concat htracked.orderly
      rwa [htracked.session_eq]
    · rw [hworld, Recorded.callsOf_note, session_concat, htracked.session_eq, hmode]
  others other hother := by rw [hworld, Recorded.callsOf_note_of_ne _ hother]
  created := by rw [hworld, Recorded.created_note]
  released := by rw [hworld, Recorded.released_note]

end Kept

theorem next_of_inside {operation : Operation} (hinside : operation.Inside) (succeeded : Bool)
    (session : Option OpenMode) : Call.next { operation, succeeded } session = session := by
  cases operation with
  | openLink mode => exact hinside.elim
  | closeLink => exact hinside.elim
  | _ => rfl

/-- A relation between stations that is respected by every call inside a session,
and by whatever calls nothing. -/
structure SessionRule (σ : Type) (number : Nat) where
  Related : Station (Recorded σ) → Station (Recorded σ) → Prop
  trans : ∀ {before between after},
    Related before between → Related between after → Related before after
  beside : ∀ {before after : Station (Recorded σ)}, after.handle.mode = before.handle.mode →
    after.world.calls = before.world.calls → after.world.created = before.world.created →
    after.world.released = before.world.released → Related before after
  note : ∀ {before after : Station (Recorded σ)} {operation : Operation} {succeeded : Bool}
    {world : σ}, operation.Inside → operation.Permitted before.handle.mode →
    after.handle.mode = before.handle.mode →
    after.world = before.world.note number { operation, succeeded } world → Related before after

theorem SessionRule.refl (rule : SessionRule σ number) (station : Station (Recorded σ)) :
    rule.Related station station :=
  rule.beside rfl rfl rfl rfl

def keptRule (σ : Type) (number : Nat) : SessionRule σ number where
  Related := Kept number
  trans := Kept.trans
  beside hmode hcalls hcreated hreleased :=
    kept_of_eq hmode (fun other => by rw [Recorded.callsOf, hcalls, Recorded.callsOf]) hcreated
      hreleased
  note {before after operation succeeded world} hinside hpermitted hmode hworld :=
    kept_of_note operation succeeded hpermitted
      (hmode.trans (next_of_inside hinside succeeded _).symm) hworld

namespace LinkM

def Keeps (number : Nat) (view : τ → Station (Recorded σ)) (action : LinkM τ α) : Prop :=
  ∀ world, Leads action world (fun _ after => Kept number (view world) (view after))
    (fun _ after => Kept number (view world) (view after))

/-- An operation respects a rule at the station that is seen in its world. -/
def Respects (rule : SessionRule σ number) (view : τ → Station (Recorded σ))
    (action : LinkM τ α) : Prop :=
  ∀ world, Leads action world (fun _ after => rule.Related (view world) (view after))
    (fun _ after => rule.Related (view world) (view after))

variable {rule : SessionRule σ number} {view : τ → Station (Recorded σ)}
variable {action : LinkM τ α} {next : α → LinkM τ β}

theorem keeps_iff : Keeps number view action ↔ Respects (keptRule σ number) view action := Iff.rfl

theorem Keeps.kept (h : Keeps number view action) (world : τ) :
    Kept number (view world) (view (action.outcome world).2) :=
  (leads_iff_world action world fun after => Kept number (view world) (view after)).mp (h world)

end LinkM

section Called

variable (transport : Transport σ) (station : Station (Recorded σ))

/-- Whatever a handle asks of a recorded transport is noted. -/
theorem Recorded.leads_ask (number : Nat) (handle : Handle) (operation : Operation)
    (recorded : Recorded σ) :
    Leads ((Recorded.transport number transport).ask handle operation) recorded
      (fun _ after => ∃ world, after = recorded.note number { operation, succeeded := true } world)
      (fun _ after =>
        ∃ world, after = recorded.note number { operation, succeeded := false } world) := by
  cases operation <;>
    simp only [Transport.ask, leads_bind, leads_pure] <;>
    exact Recorded.leads_noting (fun _ world => ⟨world, rfl⟩) (fun _ world => ⟨world, rfl⟩)

theorem mode_settle (operation : Operation) (handle : Handle) (succeeded : Bool) :
    (operation.settle handle succeeded).mode =
      Call.next { operation, succeeded } handle.mode := by
  cases operation <;> cases succeeded <;> rfl

/-- A call is noted, and leaves the handle in the session that it leads to. -/
theorem called_recorded (operation : Operation) :
    ∃ succeeded world,
      (station.called (Recorded.transport number transport) operation).world =
        station.world.note number { operation, succeeded } world ∧
      (station.called (Recorded.transport number transport) operation).handle.mode =
        Call.next { operation, succeeded } station.handle.mode := by
  have hnoted := Recorded.leads_ask transport number station.handle operation station.world
  rw [called]
  rw [Leads] at hnoted
  split at hnoted
  · next lines after hask =>
      obtain ⟨world, rfl⟩ := hnoted
      exact ⟨true, world, by rw [hask], by rw [hask]; exact mode_settle operation _ true⟩
  · next error after hask =>
      obtain ⟨world, rfl⟩ := hnoted
      exact ⟨false, world, by rw [hask], by rw [hask]; exact mode_settle operation _ false⟩

/-- A call that the session permits is kept. -/
theorem kept_called {operation : Operation}
    (hpermitted : operation.Permitted station.handle.mode) :
    Kept number station (station.called (Recorded.transport number transport) operation) := by
  obtain ⟨succeeded, world, hworld, hmode⟩ := called_recorded transport station operation
  exact kept_of_note operation succeeded hpermitted hmode hworld

end Called

variable {rule : SessionRule σ number} {transport : Transport σ}
variable {before after : Station (Recorded σ)}

/-- A rule looks at what is called inside a session, and at nothing else. -/
theorem SessionRule.related_of_move (rule : SessionRule σ number)
    (hmove : Move (Recorded.transport number transport) before after) :
    rule.Related before after := by
  cases hmove with
  | @call operation hinside hpermitted =>
      obtain ⟨succeeded, world, hworld, hmode⟩ := called_recorded transport before operation
      rw [next_of_inside hinside] at hmode
      exact rule.note hinside hpermitted hmode hworld
  | adjust events => exact rule.beside rfl rfl rfl rfl

theorem SessionRule.related_of_moves (rule : SessionRule σ number)
    (hmoves : Moves (Recorded.transport number transport) before after) :
    rule.Related before after := by
  induction hmoves with
  | refl => exact rule.refl before
  | tail _ hmove ih => exact rule.trans ih (rule.related_of_move hmove)

/-- What is made of moves respects every rule. -/
theorem LinkM.OfMoves.respects {view : τ → Station (Recorded σ)} {action : LinkM τ α}
    (hmoves : OfMoves (Recorded.transport number transport) view action) :
    Respects rule view action :=
  fun world => (leads_iff_world action world fun after =>
    rule.Related (view world) (view after)).mpr (rule.related_of_moves (hmoves world))

namespace Handle

variable (transport)

theorem keeps_openLink (mode : OpenMode) :
    Keeps number id (openLink (Recorded.transport number transport) mode) := by
  intro station
  refine (leads_iff_world _ _ fun after => Kept number station after).mpr ?_
  rcases after_openLink (Recorded.transport number transport) mode station with
    hsame | ⟨hpermitted, hcalled⟩
  · rw [hsame]
    exact .refl number station
  · rw [hcalled]
    exact kept_called transport station hpermitted

theorem keeps_closeLink : Keeps number id (closeLink (Recorded.transport number transport)) := by
  intro station
  refine (leads_iff_world _ _ fun after => Kept number station after).mpr ?_
  rcases after_closeLink (Recorded.transport number transport) station with
    hsame | ⟨hpermitted, hcalled⟩
  · rw [hsame]
    exact .refl number station
  · rw [hcalled]
    exact kept_called transport station hpermitted

end Handle

end InstrumentLink
