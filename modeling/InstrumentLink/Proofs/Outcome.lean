import InstrumentLink.Operation

/-!
# What an operation leads to

An operation answers or fails, and leaves a world behind in both cases.  A
statement about an operation therefore has two postconditions.  The laws below
take such a statement apart along the operation, so that a proof about a long
operation only speaks of the steps in which something happens.
-/

namespace InstrumentLink.LinkM

variable {σ τ α β : Type}

/-- On `world`, `action` ends in an answer and a world that satisfy `done`, or
in a failure and a world that satisfy `failed`. -/
def Leads (action : LinkM σ α) (world : σ) (done : α → σ → Prop)
    (failed : LinkError → σ → Prop) : Prop :=
  match action world with
  | .ok value after => done value after
  | .error error after => failed error after

/-- A statement about an operation is one about its outcome. -/
theorem leads_iff_outcome (action : LinkM σ α) (world : σ)
    (post : Except LinkError α → σ → Prop) :
    Leads action world (fun value => post (.ok value)) (fun error => post (.error error)) ↔
      post (action.outcome world).1 (action.outcome world).2 := by
  cases hrun : action world <;> simp only [Leads, outcome, hrun]

/-- Where only the world matters, both ends are one. -/
theorem leads_iff_world (action : LinkM σ α) (world : σ) (post : σ → Prop) :
    Leads action world (fun _ => post) (fun _ => post) ↔ post (action.outcome world).2 :=
  leads_iff_outcome action world fun _ => post

theorem Leads.of_ok {action : LinkM σ α} {world : σ} {value : α}
    {done : α → σ → Prop} {failed : LinkError → σ → Prop} (h : Leads action world done failed)
    (hrun : (action.outcome world).1 = .ok value) : done value (action.outcome world).2 := by
  rw [Leads] at h
  rw [outcome] at hrun ⊢
  split at hrun
  · next haction =>
      cases hrun
      rwa [haction] at h
  · cases hrun

theorem Leads.of_error {action : LinkM σ α} {world : σ} {error : LinkError}
    {done : α → σ → Prop} {failed : LinkError → σ → Prop} (h : Leads action world done failed)
    (hrun : (action.outcome world).1 = .error error) : failed error (action.outcome world).2 := by
  rw [Leads] at h
  rw [outcome] at hrun ⊢
  split at hrun
  · cases hrun
  · next haction =>
      cases hrun
      rwa [haction] at h

theorem Leads.mono {action : LinkM σ α} {world : σ} {done done' : α → σ → Prop}
    {failed failed' : LinkError → σ → Prop} (h : Leads action world done failed)
    (hdone : ∀ value after, done value after → done' value after)
    (hfailed : ∀ error after, failed error after → failed' error after) :
    Leads action world done' failed' := by
  rw [Leads] at h ⊢
  split at h
  · exact hdone _ _ h
  · exact hfailed _ _ h

theorem Leads.and {action : LinkM σ α} {world : σ} {done done' : α → σ → Prop}
    {failed failed' : LinkError → σ → Prop} (h : Leads action world done failed)
    (h' : Leads action world done' failed') :
    Leads action world (fun value after => done value after ∧ done' value after)
      (fun error after => failed error after ∧ failed' error after) := by
  rw [Leads] at h h' ⊢
  split
  · next hrun =>
      rw [hrun] at h h'
      exact ⟨h, h'⟩
  · next hrun =>
      rw [hrun] at h h'
      exact ⟨h, h'⟩

/-- What holds of all ends holds of the one that is reached. -/
theorem leads_of_forall {action : LinkM σ α} {world : σ} {done : α → σ → Prop}
    {failed : LinkError → σ → Prop} (hdone : ∀ value after, done value after)
    (hfailed : ∀ error after, failed error after) : Leads action world done failed := by
  rw [Leads]
  split
  · exact hdone _ _
  · exact hfailed _ _

theorem Leads.exists_outcome {action : LinkM σ α} {world : σ} {done : α → σ → Prop}
    {failed : LinkError → σ → Prop} (h : Leads action world done failed) :
    (∃ value after, action.outcome world = (.ok value, after) ∧ done value after) ∨
      ∃ error after, action.outcome world = (.error error, after) ∧ failed error after := by
  cases hrun : action world with
  | ok value after =>
      rw [Leads, hrun] at h
      exact .inl ⟨value, after, by rw [outcome, hrun], h⟩
  | error error after =>
      rw [Leads, hrun] at h
      exact .inr ⟨error, after, by rw [outcome, hrun], h⟩

/-- An operation that cannot fail answers. -/
theorem Leads.exists_ok {action : LinkM σ α} {world : σ} {done : α → σ → Prop}
    (h : Leads action world done fun _ _ => False) :
    ∃ value after, action.outcome world = (.ok value, after) ∧ done value after :=
  h.exists_outcome.resolve_right fun ⟨_, _, _, hfalse⟩ => hfalse

theorem Leads.outcome_eq {action : LinkM σ α} {world after : σ} {error : LinkError}
    (h : Leads action world (fun _ _ => False) (fun failure last => failure = error ∧ last = after)) :
    action.outcome world = (.error error, after) := by
  cases hrun : action world with
  | ok value last =>
      simp only [Leads, hrun] at h
  | error failure last =>
      simp only [Leads, hrun] at h
      simp only [outcome, hrun, h.1, h.2]

@[simp]
theorem leads_pure (value : α) (world : σ) (done : α → σ → Prop)
    (failed : LinkError → σ → Prop) :
    Leads (pure value) world done failed ↔ done value world := Iff.rfl

@[simp]
theorem leads_throw (error : LinkError) (world : σ) (done : α → σ → Prop)
    (failed : LinkError → σ → Prop) :
    Leads (throw error) world done failed ↔ failed error world := Iff.rfl

@[simp]
theorem leads_get (world : σ) (done : σ → σ → Prop) (failed : LinkError → σ → Prop) :
    Leads (get : LinkM σ σ) world done failed ↔ done world world := Iff.rfl

@[simp]
theorem leads_set (world after : σ) (done : PUnit → σ → Prop)
    (failed : LinkError → σ → Prop) :
    Leads (set after : LinkM σ PUnit) world done failed ↔ done ⟨⟩ after := Iff.rfl

@[simp]
theorem leads_modify (change : σ → σ) (world : σ) (done : PUnit → σ → Prop)
    (failed : LinkError → σ → Prop) :
    Leads (modify change : LinkM σ PUnit) world done failed ↔ done ⟨⟩ (change world) := Iff.rfl

/-- The second step starts in the world that the first one leaves; a failure of
the first is one of the whole. -/
@[simp]
theorem leads_bind (action : LinkM σ α) (next : α → LinkM σ β) (world : σ)
    (done : β → σ → Prop) (failed : LinkError → σ → Prop) :
    Leads (action >>= next) world done failed ↔
      Leads action world (fun value after => Leads (next value) after done failed) failed := by
  simp only [Leads, bind, EStateM.bind]
  cases action world <;> rfl

theorem outcome_bind (action : LinkM σ α) (next : α → LinkM σ β) (world : σ) :
    (action >>= next).outcome world =
      match action.outcome world with
      | (.ok value, after) => (next value).outcome after
      | (.error error, after) => (.error error, after) := by
  simp only [outcome, bind, EStateM.bind]
  cases action world <;> rfl

theorem outcome_attempt (action : LinkM σ α) (world : σ) :
    (attempt action).outcome world = (.ok (action.outcome world).1, (action.outcome world).2) := by
  simp only [outcome, attempt]
  cases action world <;> rfl

@[simp]
theorem leads_attempt (action : LinkM σ α) (world : σ) (done : Except LinkError α → σ → Prop)
    (failed : LinkError → σ → Prop) :
    Leads (attempt action) world done failed ↔
      Leads action world (fun value => done (.ok value)) (fun error => done (.error error)) := by
  simp only [Leads, attempt]
  cases action world <;> rfl

@[simp]
theorem leads_within (part : σ → τ) (put : σ → τ → σ) (action : LinkM τ α) (world : σ)
    (done : α → σ → Prop) (failed : LinkError → σ → Prop) :
    Leads (within part put action) world done failed ↔
      Leads action (part world) (fun value inner => done value (put world inner))
        (fun error inner => failed error (put world inner)) := by
  simp only [Leads, within]
  cases action (part world) <;> rfl

@[simp]
theorem leads_ofExcept_ok (value : α) (world : σ) (done : α → σ → Prop)
    (failed : LinkError → σ → Prop) :
    Leads (ofExcept (.ok value)) world done failed ↔ done value world := Iff.rfl

@[simp]
theorem leads_ofExcept_error (error : LinkError) (world : σ) (done : α → σ → Prop)
    (failed : LinkError → σ → Prop) :
    Leads (ofExcept (.error error)) world done failed ↔ failed error world := Iff.rfl

/-- An answer that was worked out beforehand leaves the world alone. -/
theorem leads_ofExcept (result : Except LinkError α) (world : σ) (done : α → σ → Prop)
    (failed : LinkError → σ → Prop) :
    Leads (ofExcept result) world done failed ↔
      (∀ value, result = .ok value → done value world) ∧
        (∀ error, result = .error error → failed error world) := by
  cases result <;> simp

end InstrumentLink.LinkM
