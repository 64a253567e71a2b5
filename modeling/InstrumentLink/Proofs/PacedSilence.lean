import InstrumentLink.Proofs.Listening
import InstrumentLink.Proofs.ScriptedStream
import Mathlib.Algebra.Order.Floor.Div

/-!
# The pace of a silence

While a scripted link is silent it is looked at once in every window.  So a
silence lasts a whole number of windows, and is given up at the first multiple of
the window that is not shorter than the read timeout.
-/

namespace InstrumentLink

namespace FramedLink

/-- How long a link that answers every read in time is silent before a reception
gives up. -/
def longestSilence (timeout : Nat) : Nat := window timeout * (timeout ⌈/⌉ window timeout)

@[simp]
theorem longestSilence_zero : longestSilence 0 = 0 := rfl

theorem window_pos {timeout : Nat} (htimeout : 0 < timeout) : 0 < window timeout := by
  simp only [window, pollInterval]
  omega

theorem le_longestSilence (timeout : Nat) : timeout ≤ longestSilence timeout := by
  cases Nat.eq_zero_or_pos timeout with
  | inl hzero =>
      rw [hzero]
      exact Nat.zero_le _
  | inr hpos => exact (ceilDiv_le_iff_le_mul (window_pos hpos)).mp (Nat.le_refl _)

/-- The silence that is given up consists of whole windows, the last of which
starts before the timeout has passed. -/
theorem longestSilence_of_polls {timeout polls : Nat}
    (hwaiting : polls = 0 ∨ window timeout * polls < timeout)
    (hover : timeout ≤ window timeout * (polls + 1)) :
    window timeout * (polls + 1) = longestSilence timeout := by
  cases Nat.eq_zero_or_pos timeout with
  | inl hzero => simp [hzero, window]
  | inr hpos =>
      have hwindow : 0 < window timeout := window_pos hpos
      have hwaiting : window timeout * polls < timeout := by
        rcases hwaiting with rfl | hwaiting
        · exact hpos
        · exact hwaiting
      have hatMost : timeout ⌈/⌉ window timeout ≤ polls + 1 :=
        (ceilDiv_le_iff_le_mul hwindow).mpr hover
      have hatLeast : polls < timeout ⌈/⌉ window timeout := by
        rw [← not_le, ceilDiv_le_iff_le_mul hwindow]
        exact not_le_of_gt hwaiting
      rw [longestSilence, Nat.le_antisymm hatMost hatLeast]

theorem longestSilence_lt (timeout : Nat) : longestSilence timeout < timeout + pollInterval := by
  have hwindow : window timeout ≤ pollInterval := Nat.min_le_left _ _
  have hround : window timeout * ((timeout + window timeout - 1) / window timeout) ≤
      timeout + window timeout - 1 := Nat.mul_div_le _ _
  have hpositive : 0 < pollInterval := by decide
  rw [longestSilence, Nat.ceilDiv_eq_add_pred_div]
  omega

end FramedLink

namespace Scripted

open FramedLink State

variable {timeout since : Nat} {start state : State} {taken : List UInt8}

/-- A read that finds something takes a front of what can be read. -/
theorem deliver_of_read {room window : Nat} {before after : State} {first : UInt8}
    {more : List UInt8} (hread : read room (.blocking window) before = .ok (first :: more) after) :
    ∃ count, 0 < count ∧ count ≤ before.readable.length ∧ (first :: more).length = count ∧
      after = before.settle.deliver count := by
  generalize hbytes : first :: more = bytes at hread ⊢
  cases readEnd_of_read hread with
  | delivered hcount =>
      have hinput : before.settle.deliverable room ≤ before.readable.length :=
        (before.settle.deliverable_le room).2
      exact ⟨_, hcount, hinput, List.length_take_of_le hinput, rfl⟩
  | silent _ => cases hbytes

theorem clock_of_delivery {room window : Nat} {before after : State} {first : UInt8}
    {more : List UInt8} (hread : read room (.blocking window) before = .ok (first :: more) after) :
    after.clock = before.clock := by
  obtain ⟨_, _, _, _, rfl⟩ := deliver_of_read hread
  rfl

theorem clock_of_silence {room : Nat} {before after : State}
    (hread : read room (.blocking (window timeout)) before = .ok [] after) :
    after.clock = before.clock + window timeout := by
  rw [(eq_sleep_of_silence hread).2, clock_sleep (window_le_longestWait timeout), clock_settle]

/-- Since the last byte the clock has moved by whole windows, and the timeout has
not passed; and every byte was waited for no longer than the longest silence. -/
structure Paced (timeout : Nat) (start : State) (since : Nat) (taken : List UInt8)
    (state : State) (polls : Nat) : Prop where
  clock_eq : state.clock = since + window timeout * polls
  waiting : polls = 0 ∨ window timeout * polls < timeout
  since_le : since ≤ start.clock + taken.length * longestSilence timeout

theorem Paced.polls_le {polls : Nat} (hpaced : Paced timeout start since taken state polls) :
    window timeout * polls ≤ longestSilence timeout := by
  rcases hpaced.waiting with rfl | hwaiting
  · exact Nat.zero_le _
  · exact Nat.le_trans (Nat.le_of_lt hwaiting) (le_longestSilence timeout)

theorem Paced.clock_le {polls : Nat} (hpaced : Paced timeout start since taken state polls) :
    state.clock ≤ start.clock + (taken.length + 1) * longestSilence timeout := by
  have hpolls := hpaced.polls_le
  have hsince := hpaced.since_le
  rw [hpaced.clock_eq, Nat.succ_mul]
  omega

theorem paced_begun (timeout : Nat) (start : State) :
    Paced timeout start start.clock [] start 0 where
  clock_eq := rfl
  waiting := .inl rfl
  since_le := Nat.le_add_right _ _

theorem Paced.of_silence {polls room : Nat} {after : State}
    (hpaced : Paced timeout start since taken state polls)
    (hread : read room (.blocking (window timeout)) state = .ok [] after)
    (hwaiting : after.clock - since < timeout) :
    Paced timeout start since taken after (polls + 1) := by
  have hclock := clock_of_silence hread
  rw [hpaced.clock_eq, Nat.add_assoc, ← Nat.mul_succ] at hclock
  rw [hclock, Nat.add_sub_cancel_left] at hwaiting
  exact ⟨hclock, .inr hwaiting, hpaced.since_le⟩

theorem Paced.of_delivery {polls room : Nat} {first : UInt8} {more : List UInt8} {after : State}
    (hpaced : Paced timeout start since taken state polls)
    (hread : read room (.blocking (window timeout)) state = .ok (first :: more) after) :
    Paced timeout start after.clock (taken ++ first :: more) after 0 := by
  have hmore : taken.length + 1 ≤ (taken ++ first :: more).length := by
    rw [List.length_append, List.length_cons]
    omega
  refine ⟨rfl, .inl rfl, ?_⟩
  rw [clock_of_delivery hread]
  exact hpaced.clock_le.trans (Nat.add_le_add_left (Nat.mul_le_mul_right _ hmore) _)

theorem paced_of_listening (hlistening : Listening transport timeout start since taken state) :
    ∃ polls, Paced timeout start since taken state polls := by
  induction hlistening with
  | begun => exact ⟨0, paced_begun timeout start⟩
  | silence _ _ hread hwaiting ih =>
      obtain ⟨polls, hpaced⟩ := ih
      exact ⟨polls + 1, hpaced.of_silence hread hwaiting⟩
  | delivery _ _ hread ih =>
      obtain ⟨polls, hpaced⟩ := ih
      exact ⟨0, hpaced.of_delivery hread⟩

/-- A silence that is given up ends a window after the last look. -/
theorem Paced.polls_of_over {polls room : Nat} {after : State}
    (hpaced : Paced timeout start since taken state polls)
    (hread : read room (.blocking (window timeout)) state = .ok [] after)
    (hover : timeout ≤ after.clock - since) :
    timeout ≤ window timeout * (polls + 1) ∧
      after.clock = since + window timeout * (polls + 1) := by
  have hclock := clock_of_silence hread
  rw [hpaced.clock_eq, Nat.add_assoc, ← Nat.mul_succ] at hclock
  rw [hclock, Nat.add_sub_cancel_left] at hover
  exact ⟨hover, hclock⟩

end Scripted

end InstrumentLink
