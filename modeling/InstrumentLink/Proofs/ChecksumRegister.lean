import InstrumentLink.Frame.Checksum
import InstrumentLink.Proofs.PackedBits
import Mathlib.Data.List.Basic

/-!
# The checksum register

The register moves by whole bytes, but what it notices of a damaged frame is a
matter of single bits.  Moving on is linear over exclusive or and loses nothing,
so only the damage counts, wherever it begins; the parity of all bits that came
in is kept; and a single bit does not come back to itself within the length of
a frame.
-/

namespace InstrumentLink.Checksum

open Reply

/-! ## Moving on by one bit -/

theorem and_one_eq_one_iff (register : UInt16) :
    register &&& 1 = 1 ↔ register.toNat.testBit 0 = true := by
  rw [← UInt16.toNat_inj, UInt16.toNat_and, Nat.testBit_zero, decide_eq_true_iff]
  exact Iff.of_eq (congrArg (· = 1) (Nat.and_one_is_mod _))

/-- The polynomial comes in if the bit that leaves the register is set. -/
theorem shift_eq (register : UInt16) :
    shift register =
      (register >>> 1) ^^^ (if register.toNat.testBit 0 then polynomial else 0) := by
  simp only [shift, and_one_eq_one_iff]
  split
  · rfl
  · rw [UInt16.xor_zero]

theorem shift_xor (left right : UInt16) : shift (left ^^^ right) = shift left ^^^ shift right := by
  rw [shift_eq, shift_eq left, shift_eq right, UInt16.shiftRight_xor, UInt16.toNat_xor,
    Nat.testBit_xor]
  by_cases hleft : left.toNat.testBit 0 = true
  · by_cases hright : right.toNat.testBit 0 = true
    · simp only [hleft, hright, Bool.xor_self, Bool.false_eq_true, if_false, if_true,
        UInt16.xor_zero]
      calc left >>> 1 ^^^ right >>> 1
          = left >>> 1 ^^^ right >>> 1 ^^^ (polynomial ^^^ polynomial) := by
              rw [UInt16.xor_self, UInt16.xor_zero]
        _ = left >>> 1 ^^^ polynomial ^^^ (right >>> 1 ^^^ polynomial) := by ac_rfl
    · simp only [hleft, hright, Bool.xor_false, Bool.false_eq_true, if_false, if_true,
        UInt16.xor_zero]
      ac_rfl
  · simp only [hleft, Bool.false_xor, Bool.false_eq_true, if_false, UInt16.xor_zero,
      UInt16.xor_assoc]

/-- The polynomial has the highest bit, which no register that moved on without
it has. -/
theorem shift_eq_zero_iff (register : UInt16) : shift register = 0 ↔ register = 0 := by
  constructor
  · intro hzero
    have hhalf : (register >>> 1).toNat = register.toNat / 2 := by
      simp [UInt16.toNat_shiftRight, Nat.shiftRight_eq_div_pow]
    have hfits := register.toNat_lt
    rw [shift_eq, UInt16.xor_eq_zero_iff] at hzero
    have hnat := congrArg UInt16.toNat hzero
    rw [hhalf] at hnat
    by_cases hlow : register.toNat.testBit 0 = true
    · rw [if_pos hlow, show polynomial.toNat = 40961 from rfl] at hnat
      omega
    · rw [if_neg hlow, UInt16.toNat_zero] at hnat
      rw [Nat.testBit_zero, decide_eq_true_iff] at hlow
      rw [← UInt16.toNat_inj, UInt16.toNat_zero]
      omega
  · rintro rfl
    rfl

/-! ## Moving on by several bits -/

theorem shifts_xor (count : Nat) (left right : UInt16) :
    shifts count (left ^^^ right) = shifts count left ^^^ shifts count right := by
  induction count generalizing left right with
  | zero => rfl
  | succ count ih => rw [shifts, shift_xor, ih, shifts, shifts]

theorem shifts_eq_zero_iff (count : Nat) (register : UInt16) :
    shifts count register = 0 ↔ register = 0 := by
  induction count generalizing register with
  | zero => rfl
  | succ count ih => rw [shifts, ih, shift_eq_zero_iff]

/-! ## Taking in bits -/

def bitWord (bit : Bool) : UInt16 := if bit then 1 else 0

/-- Takes one bit into the register. -/
def take (register : UInt16) (bit : Bool) : UInt16 := shift (register ^^^ bitWord bit)

def takeAll (register : UInt16) (bits : List Bool) : UInt16 := bits.foldl take register

/-- Of a number the lowest bit leaves the register, and the others move up. -/
theorem shift_ofNat (bit : Bool) {rest : Nat} (hrest : rest < 2 ^ 15) :
    shift (UInt16.ofNat (bit.toNat + 2 * rest)) = shift (bitWord bit) ^^^ UInt16.ofNat rest := by
  have hbit := bit.toNat_lt
  have hvalue : (UInt16.ofNat (bit.toNat + 2 * rest)).toNat = bit.toNat + 2 * rest := by
    rw [UInt16.toNat_ofNat']
    omega
  have hhalf : UInt16.ofNat (bit.toNat + 2 * rest) >>> 1 = UInt16.ofNat rest := by
    rw [← UInt16.toNat_inj, UInt16.toNat_shiftRight, hvalue, UInt16.toNat_ofNat']
    simp only [Nat.shiftRight_eq_div_pow, UInt16.reduceToNat, Nat.reduceMod]
    omega
  have hlow : (bit.toNat + 2 * rest).testBit 0 = bit := by
    rw [Nat.testBit_zero]
    cases bit <;> simp
  rw [shift_eq, hhalf, hvalue, hlow, UInt16.xor_comm]
  cases bit <;> rfl

/-- As many bits as fit the register may as well come in at once.  The induction
is on the bits that are still to come. -/
theorem takeAll_eq_shifts (register : UInt16) (bits : List Bool) (hfit : bits.length ≤ 16) :
    takeAll register bits = shifts bits.length (register ^^^ UInt16.ofNat (valueOf bits)) := by
  induction bits generalizing register with
  | nil => exact UInt16.xor_zero.symm
  | cons bit rest ih =>
      have hrest : rest.length ≤ 15 := Nat.le_of_succ_le_succ hfit
      have hvalue : valueOf rest < 2 ^ 15 :=
        Nat.lt_of_lt_of_le (valueOf_lt rest) (Nat.pow_le_pow_right Nat.two_pos hrest)
      calc takeAll register (bit :: rest)
          = takeAll (take register bit) rest := rfl
        _ = shifts rest.length (shift register ^^^
              (shift (bitWord bit) ^^^ UInt16.ofNat (valueOf rest))) := by
              rw [ih _ (Nat.le_succ_of_le hrest), take, shift_xor, UInt16.xor_assoc]
        _ = shifts rest.length (shift (register ^^^ UInt16.ofNat (valueOf (bit :: rest)))) := by
              rw [← shift_ofNat bit hvalue, ← shift_xor, valueOf]

theorem takeAll_append (register : UInt16) (front back : List Bool) :
    takeAll register (front ++ back) = takeAll (takeAll register front) back :=
  List.foldl_append

theorem takeAll_replicate_false (count : Nat) (register : UInt16) :
    takeAll register (List.replicate count false) = shifts count register := by
  induction count generalizing register with
  | zero => rfl
  | succ count ih =>
      have hfirst : take register false = shift register :=
        congrArg shift UInt16.xor_zero
      rw [List.replicate_succ, shifts, ← hfirst]
      exact ih _

/-! ## Taking in bytes -/

/-- The bytes in order, and of each one the least significant bit first. -/
def transmitted (bytes : List UInt8) : List Bool := bytes.flatMap bitsOf

/-- The register takes a byte in bit by bit. -/
theorem absorb_eq_takeAll (register : UInt16) (byte : UInt8) :
    absorb register byte = takeAll register (bitsOf byte) := by
  have hfit : (bitsOf byte).length ≤ 16 := by simp
  rw [takeAll_eq_shifts _ _ hfit, valueOf_bitsOf, length_bitsOf, UInt16.ofNat_uInt8ToNat, absorb]

theorem run_eq_takeAll (register : UInt16) (bytes : List UInt8) :
    run register bytes = takeAll register (transmitted bytes) := by
  rw [run, takeAll, transmitted, List.foldl_flatMap]
  congr 1
  funext register byte
  exact absorb_eq_takeAll register byte

theorem run_append (register : UInt16) (front back : List UInt8) :
    run register (front ++ back) = run (run register front) back := List.foldl_append

theorem absorb_xor (left right : UInt16) (first second : UInt8) :
    absorb (left ^^^ right) (first ^^^ second) = absorb left first ^^^ absorb right second := by
  rw [absorb, absorb, absorb, ← shifts_xor, UInt8.toUInt16_xor]
  congr 1
  ac_rfl

/-- The register after damaged bytes differs from the one after the bytes as
sent by the register after the damage. -/
theorem run_xor {first second : List UInt8} (hlength : first.length = second.length)
    (left right : UInt16) :
    run (left ^^^ right) (List.zipWith (· ^^^ ·) first second) =
      run left first ^^^ run right second := by
  induction first generalizing second left right with
  | nil =>
      rw [List.length_eq_zero_iff.mp hlength.symm]
      rfl
  | cons byte first ih =>
      match second with
      | other :: second =>
          have hrest : first.length = second.length := Nat.succ.inj hlength
          calc run (left ^^^ right) (List.zipWith (· ^^^ ·) (byte :: first) (other :: second))
              = run (absorb left byte ^^^ absorb right other)
                  (List.zipWith (· ^^^ ·) first second) := by rw [← absorb_xor]; rfl
            _ = run left (byte :: first) ^^^ run right (other :: second) := ih hrest _ _

/-! ## The parity of the register -/

/-- Whether an odd number of the lowest `width` bits is set. -/
def parity : (width : Nat) → Nat → Bool
  | 0, _ => false
  | width + 1, number => number.testBit 0 ^^ parity width (number / 2)

theorem parity_xor (width left right : Nat) :
    parity width (left ^^^ right) = (parity width left ^^ parity width right) := by
  induction width generalizing left right with
  | zero => rfl
  | succ width ih =>
      rw [parity, parity, parity, Nat.testBit_xor, Nat.xor_div_two, ih, Bool.xor_assoc,
        Bool.xor_assoc, Bool.xor_left_comm (right.testBit 0)]

/-- Bits that are not set do not count. -/
theorem parity_succ {width number : Nat} (hnumber : number < 2 ^ width) :
    parity (width + 1) number = parity width number := by
  induction width generalizing number with
  | zero =>
      obtain rfl : number = 0 := Nat.lt_one_iff.mp hnumber
      rfl
  | succ width ih =>
      have hhalf : number / 2 < 2 ^ width := by
        rw [Nat.pow_succ] at hnumber
        omega
      rw [parity, ih hhalf, ← parity]

/-- Moving on keeps the parity: the polynomial has as many bits, but for an even
number, as leave the register when it comes in. -/
theorem parity_shift (register : UInt16) :
    parity 16 (shift register).toNat = parity 16 register.toNat := by
  have hhalf : (register >>> 1).toNat = register.toNat / 2 := by
    simp [UInt16.toNat_shiftRight, Nat.shiftRight_eq_div_pow]
  have hfits : register.toNat / 2 < 2 ^ 15 := by
    have := register.toNat_lt
    omega
  rw [shift_eq, UInt16.toNat_xor, parity_xor, hhalf, parity_succ hfits, parity, Bool.xor_comm]
  congr 1
  cases register.toNat.testBit 0 <;> rfl

/-- The parity of all bits that came in is kept. -/
theorem parity_takeAll (register : UInt16) (bits : List Bool) :
    parity 16 (takeAll register bits).toNat =
      (parity 16 register.toNat ^^ decide (bits.count true % 2 = 1)) := by
  induction bits generalizing register with
  | nil => exact (Bool.xor_false _).symm
  | cons bit rest ih =>
      have hbit : parity 16 (bitWord bit).toNat = bit := by cases bit <;> rfl
      have hcount : decide ((bit :: rest).count true % 2 = 1) =
          (bit ^^ decide (rest.count true % 2 = 1)) := by
        cases bit with
        | false => simp
        | true =>
            rw [List.count_cons_self, Bool.true_xor, ← decide_not, decide_eq_decide]
            omega
      calc parity 16 (takeAll register (bit :: rest)).toNat
          = parity 16 (takeAll (take register bit) rest).toNat := rfl
        _ = (parity 16 register.toNat ^^ bit ^^ decide (rest.count true % 2 = 1)) := by
              rw [ih, take, parity_shift, UInt16.toNat_xor, parity_xor, hbit]
        _ = (parity 16 register.toNat ^^ decide ((bit :: rest).count true % 2 = 1)) := by
              rw [hcount, Bool.xor_assoc]

/-! ## A single bit in the register -/

/-- None of the next `count` shifts brings the register to a single bit. -/
def avoidsOne : (count : Nat) → UInt16 → Bool
  | 0, _ => true
  | count + 1, register => shift register != 1 && avoidsOne count (shift register)

theorem shifts_ne_one_of_avoidsOne {count : Nat} {register : UInt16}
    (havoids : avoidsOne count register = true) {moved : Nat} (hmoved : moved < count) :
    shifts (moved + 1) register ≠ 1 := by
  induction count generalizing register moved with
  | zero => exact absurd hmoved (Nat.not_lt_zero _)
  | succ count ih =>
      rw [avoidsOne, Bool.and_eq_true, bne_iff_ne] at havoids
      obtain ⟨hnext, hlater⟩ := havoids
      cases moved with
      | zero => exact hnext
      | succ moved => exact ih hlater (Nat.lt_of_succ_lt_succ hmoved)

/-- A single bit does not come back to itself within 256 bytes. -/
theorem shifts_one_ne_one {distance : Nat} (hpos : 0 < distance) (hfar : distance < 2048) :
    shifts distance 1 ≠ 1 := by
  have havoids : avoidsOne 2047 1 = true := by decide +kernel
  obtain ⟨moved, rfl⟩ := Nat.exists_eq_succ_of_ne_zero (Nat.ne_of_gt hpos)
  exact shifts_ne_one_of_avoidsOne havoids (by omega)

end InstrumentLink.Checksum
