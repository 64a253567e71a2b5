import InstrumentLink.Proofs.TransportUse

/-!
# Calls inside a session

While a session lasts, nothing but closing the handle ends it: opening an open
handle is refused without a call, and no other use calls for the session to
begin or to end.  So what a use adds to the record of a transport are calls of
that transport, none of which opens or closes it.
-/

namespace InstrumentLink

open LinkM
open Transport (Operation Call)

variable {σ α : Type} {number : Nat}

/-- From one station to a later one the session of the handle goes on, and nothing
is recorded but calls inside it. -/
structure InSession (number : Nat) (before after : Station (Recorded σ)) : Prop where
  mode_eq : after.handle.mode = before.handle.mode
  recorded : ∃ calls : List Call, (∀ call ∈ calls, call.operation.Inside) ∧
    after.world = before.world.noteAll number calls after.world.world

variable {before between after : Station (Recorded σ)}

theorem InSession.trans (hfirst : InSession number before between)
    (hmore : InSession number between after) : InSession number before after where
  mode_eq := hmore.mode_eq.trans hfirst.mode_eq
  recorded := by
    obtain ⟨first, hfirstInside, hbetween⟩ := hfirst.recorded
    obtain ⟨more, hmoreInside, hafter⟩ := hmore.recorded
    refine ⟨first ++ more, List.forall_mem_append.mpr ⟨hfirstInside, hmoreInside⟩, ?_⟩
    rw [hafter, hbetween, Recorded.noteAll_noteAll]
    rfl

def inSessionRule (σ : Type) (number : Nat) : SessionRule σ number where
  Related := InSession number
  trans := InSession.trans
  beside {before after} hmode hcalls hcreated hreleased :=
    { mode_eq := hmode
      recorded := by
        refine ⟨[], List.forall_mem_nil _, ?_⟩
        rw [Recorded.noteAll, List.map_nil, List.append_nil, ← hcalls, ← hcreated,
          ← hreleased] }
  note {before after operation succeeded world} hinside _ hmode hworld :=
    { mode_eq := hmode
      recorded := by
        refine ⟨[{ operation, succeeded }], List.forall_mem_singleton.mpr hinside, ?_⟩
        rw [hworld, Recorded.note_eq_noteAll]
        rfl }

theorem InSession.refl (number : Nat) (station : Station (Recorded σ)) :
    InSession number station station :=
  (inSessionRule σ number).refl station

namespace Handle

/-- An open handle is not opened again, and its transport is not asked. -/
theorem openLink_of_open {transport : Transport σ} {station : Station σ}
    (hopen : station.handle.mode ≠ none) (mode : OpenMode) :
    ((openLink transport mode).outcome station).2 = station := by
  apply (leads_iff_world _ _ fun after => after = station).mp
  apply (openLink_leads transport mode station).mono
  · rintro _ _ ⟨hclosed, _⟩
    exact absurd hclosed hopen
  · intro _ _ hfailed
    cases hfailed with
    | alreadyOpen _ => rfl
    | transport hclosed _ => exact absurd hclosed hopen

end Handle

namespace Use

variable (transport : Transport σ)

theorem inSession_after {use : Use σ} (hcloses : use ≠ .closeLink)
    {attached : Attached (Recorded σ)} (hopen : attached.station.handle.mode ≠ none) :
    InSession number attached.station
      (use.after (Recorded.transport number transport) attached).station := by
  by_cases hopens : ∃ mode, use = .openLink mode
  · obtain ⟨mode, rfl⟩ := hopens
    rw [after, station_onHandle, Handle.openLink_of_open hopen]
    exact .refl number attached.station
  · rw [not_exists] at hopens
    change (inSessionRule σ number).Related _ _
    exact related_after transport attached hopens hcloses

/-- Uses that leave the handle open stay inside its session. -/
theorem inSession_run {uses : List (Use σ)} (hcloses : .closeLink ∉ uses)
    {attached : Attached (Recorded σ)} (hopen : attached.station.handle.mode ≠ none) :
    InSession number attached.station
      (run (Recorded.transport number transport) attached uses).station := by
  induction uses generalizing attached with
  | nil => exact .refl number attached.station
  | cons use rest ih =>
      rw [List.mem_cons, not_or] at hcloses
      have hfirst : InSession number attached.station
          (use.after (Recorded.transport number transport) attached).station :=
        inSession_after transport (Ne.symm hcloses.1) hopen
      exact hfirst.trans (ih hcloses.2 (hfirst.mode_eq ▸ hopen))

end Use

end InstrumentLink
