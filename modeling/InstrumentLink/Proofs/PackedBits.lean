import InstrumentLink.Message.Reply
import Mathlib.Algebra.Ring.Nat

/-!
# Bits packed into bytes

Bits travel eight to a byte, the first one in the least significant bit.  The
bit at a position is bit `position % 8` of byte `position / 8`, whether it is a
coil of a reply or a bit that goes into the checksum of a frame.
-/

namespace InstrumentLink.Reply

@[simp]
theorem length_bitsOf (byte : UInt8) : (bitsOf byte).length = 8 := by
  simp [bitsOf]

def valueOf : List Bool → Nat
  | [] => 0
  | bit :: rest => bit.toNat + 2 * valueOf rest

theorem valueOf_lt (bits : List Bool) : valueOf bits < 2 ^ bits.length := by
  induction bits with
  | nil => exact Nat.one_pos
  | cons bit rest ih =>
      have hbit := bit.toNat_lt
      rw [valueOf, List.length_cons, Nat.pow_succ]
      omega

theorem valueOf_append (front back : List Bool) :
    valueOf (front ++ back) = valueOf front + 2 ^ front.length * valueOf back := by
  induction front with
  | nil => simp [valueOf]
  | cons bit front ih =>
      rw [List.cons_append, valueOf, valueOf, ih, List.length_cons, Nat.pow_succ, Nat.mul_add,
        ← Nat.mul_assoc, Nat.mul_comm 2 (2 ^ front.length), Nat.add_assoc]

theorem valueOf_eq_zero_iff (bits : List Bool) : valueOf bits = 0 ↔ true ∉ bits := by
  induction bits with
  | nil => simp [valueOf]
  | cons bit rest ih =>
      rw [valueOf, List.mem_cons, not_or, ← ih]
      cases bit with
      | false =>
          simp only [Bool.toNat_false, Bool.true_eq_false, not_false_eq_true, true_and]
          omega
      | true => simp

theorem valueOf_bitsOf (byte : UInt8) : valueOf (bitsOf byte) = byte.toNat := by
  have hall : ∀ n < 256, valueOf ((List.range 8).map n.testBit) = n := by decide +kernel
  exact hall byte.toNat byte.toNat_lt

/-- Bytes are told apart by their bits. -/
theorem bitsOf_inj {first second : UInt8} : bitsOf first = bitsOf second ↔ first = second := by
  constructor
  · intro hbits
    have hvalues := congrArg valueOf hbits
    rwa [valueOf_bitsOf, valueOf_bitsOf, UInt8.toNat_inj] at hvalues
  · exact congrArg bitsOf

theorem take_bitsOf_eq_iff {used : Nat} (hused : used ≤ 8) (first second : UInt8) :
    (bitsOf first).take used = (bitsOf second).take used ↔
      ∀ bit < used, first.toNat.testBit bit = second.toNat.testBit bit := by
  simp only [bitsOf, ← List.map_take, List.take_range, Nat.min_eq_left hused, List.map_inj_left,
    List.mem_range]

theorem length_flatMap_bitsOf (bytes : List UInt8) :
    (bytes.flatMap bitsOf).length = 8 * bytes.length := by
  induction bytes with
  | nil => rfl
  | cons byte bytes ih =>
      rw [List.flatMap_cons, List.length_append, length_bitsOf, ih, List.length_cons]
      omega

theorem flatMap_bitsOf_inj {first second : List UInt8} :
    first.flatMap bitsOf = second.flatMap bitsOf ↔ first = second := by
  constructor
  · intro hbits
    have hlength : first.length = second.length := by
      have hcount := congrArg List.length hbits
      rw [length_flatMap_bitsOf, length_flatMap_bitsOf] at hcount
      omega
    induction first generalizing second with
    | nil => exact (List.length_eq_zero_iff.mp hlength.symm).symm
    | cons byte bytes ih =>
        obtain ⟨other, others, rfl⟩ := List.exists_cons_of_length_eq_add_one hlength.symm
        rw [List.flatMap_cons, List.flatMap_cons] at hbits
        obtain ⟨hfirst, hrest⟩ := List.append_inj hbits (by simp)
        rw [bitsOf_inj.mp hfirst, ih hrest (Nat.succ.inj hlength)]
  · exact congrArg (List.flatMap bitsOf)

/-- The bit at a position of packed bytes. -/
def bit? (bytes : List UInt8) (position : Nat) : Option Bool :=
  bytes[position / 8]?.map fun byte => byte.toNat.testBit (position % 8)

theorem getElem?_flatMap_bitsOf (bytes : List UInt8) (position : Nat) :
    (bytes.flatMap bitsOf)[position]? = bit? bytes position := by
  induction bytes generalizing position with
  | nil => rfl
  | cons byte bytes ih =>
      rw [List.flatMap_cons]
      by_cases hfirst : position < 8
      · rw [List.getElem?_append_left (by simpa using hfirst), bit?, Nat.div_eq_of_lt hfirst,
          Nat.mod_eq_of_lt hfirst]
        simp [bitsOf, hfirst]
      · have hnext : position / 8 = (position - 8) / 8 + 1 := by omega
        have hbit : position % 8 = (position - 8) % 8 := by omega
        rw [List.getElem?_append_right (by simpa using hfirst), length_bitsOf, ih, bit?, bit?,
          hnext, hbit, List.getElem?_cons_succ]

theorem getElem?_unpackCoils (count : Nat) (data : List UInt8) {position : Nat}
    (hposition : position < count) : (unpackCoils count data)[position]? = bit? data position := by
  rw [unpackCoils, List.getElem?_take_of_lt hposition, getElem?_flatMap_bitsOf]

theorem length_unpackCoils {count : Nat} {data : List UInt8} (henough : count ≤ 8 * data.length) :
    (unpackCoils count data).length = count := by
  rw [unpackCoils, List.length_take, length_flatMap_bitsOf, Nat.min_eq_left henough]

/-- Bytes that hold `count` items and differ, if at all, in bits of the last byte
that hold none. -/
def SameButPadding (count : Nat) (first second : List UInt8) : Prop :=
  ∃ front last other, first = front ++ [last] ∧ second = front ++ [other] ∧
    ∀ bit < (count - 1) % 8 + 1, last.toNat.testBit bit = other.toNat.testBit bit

theorem sameButPadding_cons {count : Nat} {byte other : UInt8} {first second : List UInt8}
    (hfirst : first ≠ []) :
    SameButPadding count (byte :: first) (other :: second) ↔
      byte = other ∧ SameButPadding count first second := by
  constructor
  · rintro ⟨front, last, final, hleft, hright, hused⟩
    cases front with
    | nil => exact absurd (List.cons.inj hleft).2 hfirst
    | cons head front =>
        obtain ⟨rfl, rfl⟩ := List.cons.inj hleft
        obtain ⟨rfl, rfl⟩ := List.cons.inj hright
        exact ⟨rfl, front, last, final, rfl, rfl, hused⟩
  · rintro ⟨rfl, front, last, final, rfl, rfl, hused⟩
    exact ⟨byte :: front, last, final, rfl, rfl, hused⟩

/-- All bytes but the last one are in use as a whole. -/
theorem unpackCoils_concat {count : Nat} {front : List UInt8} (hcount : 8 * front.length ≤ count)
    (last : UInt8) : unpackCoils count (front ++ [last]) =
      front.flatMap bitsOf ++ (bitsOf last).take (count - 8 * front.length) := by
  have hfront : (front.flatMap bitsOf).length ≤ count := by rwa [length_flatMap_bitsOf]
  rw [unpackCoils, List.flatMap_append, List.flatMap_singleton, List.take_append,
    List.take_of_length_le hfront, length_flatMap_bitsOf]

/-- Bytes that are just enough for some coils hold the same ones unless they
differ in a bit that is in use. -/
theorem unpackCoils_eq_iff {count : Nat} (hcount : 1 ≤ count) {first second : List UInt8}
    (hfirst : first.length = (count + 7) / 8) (hsecond : second.length = (count + 7) / 8) :
    unpackCoils count first = unpackCoils count second ↔ SameButPadding count first second := by
  have hconcat : ∀ {bytes : List UInt8}, bytes.length = (count + 7) / 8 →
      ∃ front last, bytes = front ++ [last] ∧ front.length = (count - 1) / 8 := by
    intro bytes hlength
    have hsome : bytes ≠ [] := List.ne_nil_of_length_pos (by omega)
    refine ⟨bytes.dropLast, bytes.getLast hsome, (List.dropLast_concat_getLast hsome).symm, ?_⟩
    rw [List.length_dropLast]
    omega
  obtain ⟨front, last, rfl, hfront⟩ := hconcat hfirst
  obtain ⟨others, other, rfl, hothers⟩ := hconcat hsecond
  -- The last byte holds at least one item, so the others are full.
  have hused : count - 8 * ((count - 1) / 8) = (count - 1) % 8 + 1 := by omega
  have hwhole : (front.flatMap bitsOf).length = (others.flatMap bitsOf).length := by
    rw [length_flatMap_bitsOf, length_flatMap_bitsOf, hfront, hothers]
  have hpadding := take_bitsOf_eq_iff (show (count - 1) % 8 + 1 ≤ 8 by omega) last other
  rw [unpackCoils_concat (by omega), unpackCoils_concat (by omega), hfront, hothers, hused]
  constructor
  · intro hcoils
    obtain ⟨hbytes, hlast⟩ := List.append_inj hcoils hwhole
    rw [flatMap_bitsOf_inj.mp hbytes]
    exact ⟨others, last, other, rfl, rfl, hpadding.mp hlast⟩
  · rintro ⟨shared, _, _, hleft, hright, hbits⟩
    obtain ⟨rfl, hlast⟩ := List.append_inj' hleft rfl
    obtain ⟨rfl, hother⟩ := List.append_inj' hright rfl
    cases hlast
    cases hother
    rw [hpadding.mpr hbits]

end InstrumentLink.Reply
