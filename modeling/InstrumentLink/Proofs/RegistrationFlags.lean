import InstrumentLink.Event.Flags

/-!
# Stores to the flags of registrations

A store to the flags of one registration leaves all others alone, and no store
ever arms a registration that is there already: whatever its owner and its
callback do, `Later` leads from the flags before to the flags afterwards.
-/

namespace InstrumentLink.FlagStore

variable {before between after : FlagStore}

/-! ### One store -/

@[simp]
theorem count_allocate (flags : FlagStore) : flags.allocate.count = flags.count + 1 := by
  simp [allocate, count]

@[simp]
theorem count_disarm (flags : FlagStore) (number : Nat) :
    (flags.disarm number).count = flags.count := by
  simp [disarm, count]

@[simp]
theorem count_withdraw (flags : FlagStore) (number : Nat) :
    (flags.withdraw number).count = flags.count := by
  simp [withdraw, count]

@[simp]
theorem count_clear (flags : FlagStore) (number : Nat) :
    (flags.clear number).count = flags.count := by
  simp [clear]

/-- The next registration is armed, and it alone. -/
theorem isArmed_allocate (flags : FlagStore) (number : Nat) :
    flags.allocate.isArmed number = (flags.isArmed number || number == flags.count) := by
  rcases Nat.lt_trichotomy number flags.cells.length with hlt | rfl | hgt
  · simp [isArmed, allocate, count, List.getElem?_append_left hlt, Nat.ne_of_lt hlt]
  · simp [isArmed, allocate, count]
  · have hbefore : flags.isArmed number = false := by
      rw [isArmed, List.getElem?_eq_none (Nat.le_of_lt hgt)]
      rfl
    have hafter : flags.allocate.isArmed number = false := by
      rw [isArmed, List.getElem?_eq_none]
      · rfl
      · simpa [allocate] using Nat.succ_le_of_lt hgt
    rw [hbefore, hafter, Bool.false_or]
    exact (beq_false_of_ne (Nat.ne_of_gt hgt)).symm

theorem isInReactor_allocate (flags : FlagStore) :
    flags.allocate.isInReactor flags.count = true := by
  simp [isInReactor, allocate, count]

@[simp]
theorem isArmed_disarm (flags : FlagStore) (number other : Nat) :
    (flags.disarm number).isArmed other = (flags.isArmed other && other != number) := by
  by_cases hsame : number = other
  · simp [isArmed, disarm, hsame, Option.any_map]
  · simp [isArmed, disarm, hsame, Ne.symm hsame]

@[simp]
theorem isInReactor_disarm (flags : FlagStore) (number other : Nat) :
    (flags.disarm number).isInReactor other = flags.isInReactor other := by
  by_cases hsame : number = other
  · simp [isInReactor, disarm, hsame, Option.any_map]
  · simp [isInReactor, disarm, hsame]

@[simp]
theorem isArmed_withdraw (flags : FlagStore) (number other : Nat) :
    (flags.withdraw number).isArmed other = flags.isArmed other := by
  by_cases hsame : number = other
  · simp [isArmed, withdraw, hsame, Option.any_map]
  · simp [isArmed, withdraw, hsame]

@[simp]
theorem isInReactor_withdraw (flags : FlagStore) (number other : Nat) :
    (flags.withdraw number).isInReactor other = (flags.isInReactor other && other != number) := by
  by_cases hsame : number = other
  · simp [isInReactor, withdraw, hsame, Option.any_map]
  · simp [isInReactor, withdraw, hsame, Ne.symm hsame]

@[simp]
theorem isArmed_clear (flags : FlagStore) (number other : Nat) :
    (flags.clear number).isArmed other = (flags.isArmed other && other != number) := by
  simp [clear]

@[simp]
theorem isInReactor_clear (flags : FlagStore) (number other : Nat) :
    (flags.clear number).isInReactor other = (flags.isInReactor other && other != number) := by
  simp [clear]

/-! ### Any number of stores -/

/-- No flags are lost, and no registration that was there is armed unless it was
armed before. -/
structure Later (before after : FlagStore) : Prop where
  count_le : before.count ≤ after.count
  armed : ∀ number < before.count, after.isArmed number = true → before.isArmed number = true

theorem Later.refl (flags : FlagStore) : Later flags flags :=
  ⟨Nat.le_refl _, fun _ _ => id⟩

theorem Later.trans (hfirst : Later before between) (hmore : Later between after) :
    Later before after where
  count_le := Nat.le_trans hfirst.count_le hmore.count_le
  armed number hnumber harmed :=
    hfirst.armed number hnumber
      (hmore.armed number (Nat.lt_of_lt_of_le hnumber hfirst.count_le) harmed)

theorem later_allocate (flags : FlagStore) : Later flags flags.allocate where
  count_le := by simp
  armed number hnumber harmed := by
    simpa [isArmed_allocate, Nat.ne_of_lt hnumber] using harmed

theorem later_disarm (flags : FlagStore) (number : Nat) : Later flags (flags.disarm number) where
  count_le := by simp
  armed other _ harmed := by
    rw [isArmed_disarm, Bool.and_eq_true] at harmed
    exact harmed.1

theorem later_withdraw (flags : FlagStore) (number : Nat) :
    Later flags (flags.withdraw number) where
  count_le := by simp
  armed other _ harmed := by rwa [isArmed_withdraw] at harmed

theorem later_clear (flags : FlagStore) (number : Nat) : Later flags (flags.clear number) :=
  (flags.later_disarm number).trans ((flags.disarm number).later_withdraw number)

end InstrumentLink.FlagStore
