import InstrumentLink.Proofs.ChecksumRegister
import InstrumentLink.Proofs.WordBytes

/-!
# Damaged frames

A frame with its trailer brings the checksum register to zero, and damage to the
frame moves the register by what the damage alone brings it to.  So damage goes
unnoticed only if the register takes it for nothing, which is never so for a
burst as long as the register, for an odd number of bits, or for two bits of one
frame.
-/

namespace InstrumentLink

namespace Checksum

open Reply

/-- Kinds of damage to the bits of a frame, numbered in the order in which they
are transmitted. -/
inductive Noticeable (bits : List Bool) : Prop
  /-- All of it lies within 16 consecutive positions. -/
  | burst (start : Nat) (hwithin : ∀ position, bits[position]? = some true →
      start ≤ position ∧ position < start + 16) : Noticeable bits
  | odd (hcount : bits.count true % 2 = 1) : Noticeable bits
  | pair (hcount : bits.count true = 2) : Noticeable bits

variable {bits : List Bool}

/-- Over undamaged bits the register only moves on. -/
theorem takeAll_of_not_mem (register : UInt16) (hnone : true ∉ bits) :
    takeAll register bits = shifts bits.length register := by
  have hall : bits = List.replicate bits.length false := by
    apply List.eq_replicate_of_mem
    intro bit hbit
    cases bit with
    | false => rfl
    | true => exact absurd hbit hnone
  conv => lhs; rw [hall]
  exact takeAll_replicate_false _ _

theorem takeAll_zero_of_not_mem (hnone : true ∉ bits) : takeAll 0 bits = 0 := by
  rw [takeAll_of_not_mem 0 hnone, shifts_eq_zero_iff]

/-- The register tells all damage that fits it from none. -/
theorem takeAll_ne_zero_of_length_le (hfit : bits.length ≤ 16) (hsome : true ∈ bits) :
    takeAll 0 bits ≠ 0 := by
  have hvalue : valueOf bits < 2 ^ 16 :=
    Nat.lt_of_lt_of_le (valueOf_lt bits) (Nat.pow_le_pow_right Nat.two_pos hfit)
  intro hzero
  rw [takeAll_eq_shifts _ _ hfit, shifts_eq_zero_iff, UInt16.zero_xor, ← UInt16.toNat_inj,
    UInt16.toNat_ofNat', UInt16.toNat_zero, Nat.mod_eq_of_lt hvalue, valueOf_eq_zero_iff] at hzero
  exact hzero hsome

theorem takeAll_ne_zero_of_burst {start : Nat} (hsome : true ∈ bits)
    (hwithin : ∀ position, bits[position]? = some true →
      start ≤ position ∧ position < start + 16) : takeAll 0 bits ≠ 0 := by
  have hbefore : true ∉ bits.take start := by
    intro hmem
    obtain ⟨position, hposition⟩ := List.mem_iff_getElem?.mp hmem
    rw [List.getElem?_take] at hposition
    split at hposition
    · have := (hwithin position hposition).1
      omega
    · cases hposition
  have hbehind : true ∉ (bits.drop start).drop 16 := by
    intro hmem
    obtain ⟨position, hposition⟩ := List.mem_iff_getElem?.mp hmem
    rw [List.getElem?_drop, List.getElem?_drop] at hposition
    have := (hwithin _ hposition).2
    omega
  have hsplit : bits = bits.take start ++ ((bits.drop start).take 16 ++ (bits.drop start).drop 16) := by
    rw [List.take_append_drop, List.take_append_drop]
  have hburst : true ∈ (bits.drop start).take 16 := by
    rw [hsplit, List.mem_append, List.mem_append] at hsome
    exact (hsome.resolve_left hbefore).resolve_right hbehind
  rw [hsplit, takeAll_append, takeAll_zero_of_not_mem hbefore, takeAll_append,
    takeAll_of_not_mem _ hbehind, ne_eq, shifts_eq_zero_iff]
  exact takeAll_ne_zero_of_length_le (List.length_take_le _ _) hburst

theorem takeAll_ne_zero_of_odd (hcount : bits.count true % 2 = 1) : takeAll 0 bits ≠ 0 := by
  intro hzero
  have hparity := parity_takeAll 0 bits
  rw [hzero, hcount] at hparity
  exact absurd hparity (by decide)

/-- Two bits cancel out only if the first one has come back to itself when the
second one comes in. -/
theorem takeAll_ne_zero_of_pair (hshort : bits.length ≤ 2048) (hcount : bits.count true = 2) :
    takeAll 0 bits ≠ 0 := by
  obtain ⟨before, rest, rfl, hbefore⟩ :=
    List.eq_append_cons_of_mem (List.count_pos_iff.mp (by omega : 0 < bits.count true))
  rw [List.count_append, List.count_eq_zero.mpr hbefore, List.count_cons_self] at hcount
  obtain ⟨between, after, rfl, hbetween⟩ :=
    List.eq_append_cons_of_mem (List.count_pos_iff.mp (by omega : 0 < rest.count true))
  rw [List.count_append, List.count_eq_zero.mpr hbetween, List.count_cons_self] at hcount
  have hafter : true ∉ after := List.count_eq_zero.mp (by omega)
  have hlength : between.length + 1 < 2048 := by
    simp only [List.length_append, List.length_cons] at hshort
    omega
  have hregister : takeAll 0 (before ++ true :: (between ++ true :: after)) =
      shifts after.length (shift (shifts (between.length + 1) 1 ^^^ 1)) := by
    calc takeAll 0 (before ++ true :: (between ++ true :: after))
        = takeAll (takeAll 0 before) (true :: (between ++ true :: after)) := takeAll_append _ _ _
      _ = takeAll (shift 1) (between ++ true :: after) := by
            rw [takeAll_zero_of_not_mem hbefore]
            rfl
      _ = takeAll (take (shifts between.length (shift 1)) true) after := by
            rw [takeAll_append, takeAll_of_not_mem _ hbetween]
            rfl
      _ = shifts after.length (shift (shifts (between.length + 1) 1 ^^^ 1)) :=
            takeAll_of_not_mem _ hafter
  rw [hregister, ne_eq, shifts_eq_zero_iff, shift_eq_zero_iff, UInt16.xor_eq_zero_iff]
  exact shifts_one_ne_one (Nat.succ_pos _) hlength

theorem Noticeable.takeAll_ne_zero (hnoticeable : Noticeable bits) (hsome : true ∈ bits)
    (hshort : bits.length ≤ 2048) : takeAll 0 bits ≠ 0 := by
  cases hnoticeable with
  | burst start hwithin => exact takeAll_ne_zero_of_burst hsome hwithin
  | odd hcount => exact takeAll_ne_zero_of_odd hcount
  | pair hcount => exact takeAll_ne_zero_of_pair hshort hcount

/-- A pattern that is not zero has a bit that is set. -/
theorem true_mem_transmitted {bytes : List UInt8} (hsome : ∃ byte ∈ bytes, byte ≠ 0) :
    true ∈ transmitted bytes := by
  obtain ⟨byte, hbyte, hne⟩ := hsome
  have hset : true ∈ bitsOf byte := by
    by_contra hnone
    rw [← valueOf_eq_zero_iff, valueOf_bitsOf] at hnone
    exact hne (UInt8.toNat_inj.mp hnone)
  exact List.mem_flatMap.mpr ⟨byte, hbyte, hset⟩

end Checksum

namespace Frame

open Checksum Reply

/-- The trailer that brings the register to zero is the register itself. -/
theorem run_trailer_eq_zero_iff (register : UInt16) (low high : UInt8) :
    run register [low, high] = 0 ↔ register = low.toUInt16 ||| (high.toUInt16 <<< 8) := by
  have hlength : (transmitted [low, high]).length = 16 := length_flatMap_bitsOf _
  have hvalue : valueOf (transmitted [low, high]) = (Pdu.wordOf high low).toNat := by
    rw [transmitted, List.flatMap_cons, List.flatMap_singleton, valueOf_append,
      length_bitsOf, valueOf_bitsOf, valueOf_bitsOf, Pdu.toNat_wordOf]
    omega
  rw [run_eq_takeAll, takeAll_eq_shifts _ _ (Nat.le_of_eq hlength), shifts_eq_zero_iff, hvalue,
    UInt16.ofNat_toNat, UInt16.xor_eq_zero_iff, Pdu.wordOf, UInt16.or_comm]

/-- A trailer is accepted exactly if it brings the register to zero. -/
theorem verify_eq_ok_iff (body : List UInt8) (low high : UInt8) :
    verify body low high = .ok () ↔ checksum (body ++ [low, high]) = 0 := by
  rw [checksum, run_append, run_trailer_eq_zero_iff, ← checksum]
  by_cases hsame : checksum body = low.toUInt16 ||| (high.toUInt16 <<< 8)
  · simp [verify, hsame]
  · simp [verify, hsame]

theorem checksum_frame {address : UInt8} {pdu frame : List UInt8}
    (hencode : encode address pdu = .ok frame) : checksum frame = 0 := by
  obtain ⟨_, rfl⟩ := eq_of_encode hencode
  exact (verify_eq_ok_iff _ _ _).mp (verify_trailer (address :: pdu))

/-- Bytes that could be a frame but do not bring the register to zero are refused
for their checksum. -/
theorem decode_of_checksum_ne_zero {frame : List UInt8} (hlong : 4 ≤ frame.length)
    (hchecksum : checksum frame ≠ 0) :
    ∃ expected received, decode frame = .error (.protocol (.checksum expected received)) := by
  obtain ⟨address, first, rest, low, high, rfl⟩ := exists_parts hlong
  rw [decode_append_trailer]
  by_cases hsame : checksum (address :: first :: rest) = low.toUInt16 ||| (high.toUInt16 <<< 8)
  · exact absurd ((verify_eq_ok_iff _ _ _).mp (by simp [verify, hsame])) hchecksum
  · exact ⟨_, _, by simp only [verify, if_pos hsame]; rfl⟩

def damaged (frame pattern : List UInt8) : List UInt8 := List.zipWith (· ^^^ ·) frame pattern

theorem checksum_damaged {address : UInt8} {pdu frame pattern : List UInt8}
    (hencode : encode address pdu = .ok frame) (hlength : pattern.length = frame.length) :
    checksum (damaged frame pattern) = takeAll 0 (transmitted pattern) := by
  have hlinear := run_xor hlength.symm 0xFFFF 0
  rw [UInt16.xor_zero, ← checksum, ← checksum, checksum_frame hencode, UInt16.zero_xor] at hlinear
  rw [damaged, hlinear, run_eq_takeAll]

/-- Every message body of a proper length is framed, and a frame that was damaged
in a burst of 16 bits, in an odd number of bits, or in two bits is refused,
wherever the damage lies. -/
theorem decode_damaged (address : UInt8) {pdu : List UInt8} (hpdu : 1 ≤ pdu.length)
    (hfits : pdu.length ≤ maxPduSize) :
    ∃ frame, encode address pdu = .ok frame ∧
      ∀ pattern : List UInt8, pattern.length = frame.length → (∃ byte ∈ pattern, byte ≠ 0) →
        Noticeable (transmitted pattern) → ∃ expected received,
          decode (damaged frame pattern) = .error (.protocol (.checksum expected received)) := by
  have hencode := encode_of_fits address hpdu hfits
  refine ⟨_, hencode, ?_⟩
  intro pattern hlength hsome hnoticeable
  have hframe : (address :: pdu ++ trailer (address :: pdu)).length = pdu.length + 3 := by
    rw [List.length_append]
    rfl
  have hdamaged : (damaged (address :: pdu ++ trailer (address :: pdu)) pattern).length =
      pdu.length + 3 := by
    rw [damaged, List.length_zipWith, hlength, Nat.min_self, hframe]
  have hshort : (transmitted pattern).length ≤ 2048 := by
    rw [transmitted, length_flatMap_bitsOf, hlength, hframe]
    simp only [maxPduSize] at hfits
    omega
  apply decode_of_checksum_ne_zero (by omega)
  rw [checksum_damaged hencode hlength]
  exact hnoticeable.takeAll_ne_zero (true_mem_transmitted hsome) hshort

/-- A burst from the last bit of the message body into both bytes of the trailer. -/
theorem decode_damaged_trailer :
    1 ≤ [3, 2, 0, 42].length ∧ [3, 2, 0, 42].length ≤ maxPduSize ∧
      encode 1 [3, 2, 0, 42] = .ok [1, 3, 2, 0, 42, 57, 155] ∧
      Noticeable (transmitted [0, 0, 0, 0, 128, 255, 1]) ∧ ∃ expected received,
        decode (damaged [1, 3, 2, 0, 42, 57, 155] [0, 0, 0, 0, 128, 255, 1]) =
          .error (.protocol (.checksum expected received)) := by
  have hencode : encode 1 [3, 2, 0, 42] = .ok [1, 3, 2, 0, 42, 57, 155] := by decide +kernel
  have hnoticeable : Noticeable (transmitted [0, 0, 0, 0, 128, 255, 1]) := by
    refine .burst 39 ?_
    intro position hposition
    have hlast : position < 56 := (List.getElem?_eq_some_iff.mp hposition).1
    exact (by decide : ∀ position < 56, (transmitted [0, 0, 0, 0, 128, 255, 1])[position]? =
      some true → 39 ≤ position ∧ position < 39 + 16) position hlast hposition
  obtain ⟨frame, hframe, hdamaged⟩ := @decode_damaged 1 [3, 2, 0, 42] (by decide) (by decide)
  obtain rfl : [1, 3, 2, 0, 42, 57, 155] = frame := Except.ok.inj (hencode.symm.trans hframe)
  exact ⟨by decide, by decide, hencode, hnoticeable,
    hdamaged _ rfl ⟨128, by decide, by decide⟩ hnoticeable⟩

end Frame

end InstrumentLink
