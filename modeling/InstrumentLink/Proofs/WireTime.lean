import InstrumentLink.Line.Params
import Mathlib.Algebra.Order.Floor.Div

/-!
# Time on the wire, exactly

As long as the number of bits fits, the estimate is the number of milliseconds that
the characters occupy the line, rounded up.  The characters that valid line
parameters put on a line have between seven and twelve bits.
-/

namespace InstrumentLink

namespace CharFormat

theorem divUp_eq_ceilDiv {a b : Nat} (hb : 0 < b) : divUp a b = a ⌈/⌉ b := by
  have hsplit := Nat.div_add_mod' a b
  have hless := Nat.mod_lt a hb
  rw [divUp, Nat.ceilDiv_eq_add_pred_div]
  split
  · next hexact =>
      rw [Nat.add_zero]
      refine (Nat.div_eq_of_lt_le ?_ ?_).symm
      · omega
      · rw [Nat.succ_mul]
        omega
  · next hrest =>
      have hover := Nat.pos_of_ne_zero hrest
      refine (Nat.div_eq_of_lt_le ?_ ?_).symm
      · rw [Nat.succ_mul]
        omega
      · rw [Nat.succ_mul, Nat.succ_mul]
        omega

theorem mul?_of_lt {a b : Nat} (hfits : a * b < UInt64.size) : mul? a b = some (a * b) :=
  if_pos hfits

/-- An estimate that fits is exact. -/
theorem transferTime?_eq {format : CharFormat} {bytes : Nat} (hbaud : format.baud ≠ 0)
    (hfits : bytes * format.bits.toNat * 1000 < UInt64.size) :
    format.transferTime? bytes =
      some ((bytes * format.bits.toNat * 1000) ⌈/⌉ format.baud.toNat) := by
  have hpos : 0 < format.baud.toNat := by
    rw [Nat.pos_iff_ne_zero]
    exact fun hzero => hbaud (UInt32.toNat_inj.mp hzero)
  have hbits : bytes * format.bits.toNat < UInt64.size :=
    Nat.lt_of_le_of_lt (Nat.le_mul_of_pos_right _ (by decide)) hfits
  rw [transferTime?, if_neg hbaud, mul?_of_lt hbits]
  simp only [Option.bind_eq_bind, Option.bind_some, mul?_of_lt hfits]
  rw [divUp_eq_ceilDiv hpos]
  rfl

theorem transferTime?_of_baud_zero {format : CharFormat} {bytes : Nat} (hbaud : format.baud = 0) :
    format.transferTime? bytes = some 0 :=
  if_pos hbaud

/-- An estimate has no value exactly where the number of bits, a thousand times over, does
not fit; the first product leaves its word only where the second one does. -/
theorem transferTime?_eq_none_iff {format : CharFormat} {bytes : Nat} :
    format.transferTime? bytes = none ↔
      format.baud ≠ 0 ∧ UInt64.size ≤ bytes * format.bits.toNat * 1000 := by
  by_cases hbaud : format.baud = 0
  · simp [transferTime?_of_baud_zero hbaud, hbaud]
  · by_cases hfits : bytes * format.bits.toNat * 1000 < UInt64.size
    · simp [transferTime?_eq hbaud hfits, hfits]
    · have hnone : format.transferTime? bytes = none := by
        rw [transferTime?, if_neg hbaud, mul?]
        split
        · exact (Option.bind_some _ _).trans (by rw [mul?, if_neg hfits]; rfl)
        · rfl
      exact ⟨fun _ => ⟨hbaud, Nat.not_lt.mp hfits⟩, fun _ => hnone⟩

/-! ### Rounding up -/

theorem isLeast_ceilDiv {rate : Nat} (hrate : 0 < rate) (total : Nat) :
    IsLeast {time | total ≤ time * rate} (total ⌈/⌉ rate) := by
  constructor
  · rw [Set.mem_ofPred_eq, Nat.mul_comm]
    exact (ceilDiv_le_iff_le_mul hrate).mp le_rfl
  · intro time hlong
    rw [Set.mem_ofPred_eq, Nat.mul_comm] at hlong
    exact (ceilDiv_le_iff_le_mul hrate).mpr hlong

theorem ceilDiv_mono {rate fewer more : Nat} (hrate : 0 < rate) (hle : fewer ≤ more) :
    fewer ⌈/⌉ rate ≤ more ⌈/⌉ rate :=
  (gc_mul_ceilDiv hrate).monotone_l hle

/-- Rounded up apart, two parts take as long as together, or one longer. -/
theorem ceilDiv_add_ceilDiv {rate : Nat} (hrate : 0 < rate) (first more : Nat) :
    first ⌈/⌉ rate + more ⌈/⌉ rate = (first + more) ⌈/⌉ rate ∨
      first ⌈/⌉ rate + more ⌈/⌉ rate = (first + more) ⌈/⌉ rate + 1 := by
  have hless : ∀ {total : Nat}, 0 < total ⌈/⌉ rate → rate * (total ⌈/⌉ rate - 1) < total := by
    intro total hpos
    by_contra hnot
    have hle : total ⌈/⌉ rate ≤ total ⌈/⌉ rate - 1 :=
      (ceilDiv_le_iff_le_mul hrate).mpr (Nat.not_lt.mp hnot)
    omega
  have hlow : (first + more) ⌈/⌉ rate ≤ first ⌈/⌉ rate + more ⌈/⌉ rate := by
    rw [ceilDiv_le_iff_le_mul hrate, Nat.mul_add]
    exact Nat.add_le_add ((ceilDiv_le_iff_le_mul hrate).mp le_rfl)
      ((ceilDiv_le_iff_le_mul hrate).mp le_rfl)
  have hfirstLow : first ⌈/⌉ rate ≤ (first + more) ⌈/⌉ rate :=
    ceilDiv_mono hrate (Nat.le_add_right first more)
  have hmoreLow : more ⌈/⌉ rate ≤ (first + more) ⌈/⌉ rate :=
    ceilDiv_mono hrate (Nat.le_add_left more first)
  rcases Nat.eq_zero_or_pos (first ⌈/⌉ rate) with hzero | hfirst
  · omega
  rcases Nat.eq_zero_or_pos (more ⌈/⌉ rate) with hzero | hmore
  · omega
  have htogether : first + more ≤ rate * ((first + more) ⌈/⌉ rate) :=
    (ceilDiv_le_iff_le_mul hrate).mp le_rfl
  have hapart : rate * (first ⌈/⌉ rate - 1 + (more ⌈/⌉ rate - 1)) <
      rate * ((first + more) ⌈/⌉ rate) := by
    rw [Nat.mul_add]
    exact Nat.lt_of_lt_of_le (Nat.add_lt_add (hless hfirst) (hless hmore)) htogether
  have hhigh := Nat.lt_of_mul_lt_mul_left hapart
  omega

end CharFormat

namespace LineParams

variable {params : LineParams}

/-- A start bit, the data bits, the parity bit if there is one, and the stop bits. -/
theorem toNat_bits_charFormat (hvalid : params.validate = .ok ()) :
    params.charFormat.bits.toNat =
      1 + params.dataBits.toNat + (if params.parity = .none then 0 else 1) +
        params.stopBits.toNat := by
  obtain ⟨_, ⟨_, hdata⟩, _, hstop⟩ := validate_eq_ok_iff.mp hvalid
  have hdata : params.dataBits.toNat ≤ 8 := UInt8.le_iff_toNat_le.mp hdata
  have hstop : params.stopBits.toNat ≤ 2 := UInt8.le_iff_toNat_le.mp hstop
  cases hparity : params.parity <;>
    simp [charFormat, CharFormat.ofShape, hparity, UInt32.toNat_add] <;> omega

theorem charFormat_bounds (hvalid : params.validate = .ok ()) :
    1 ≤ params.charFormat.baud.toNat ∧ 7 ≤ params.charFormat.bits.toNat ∧
      params.charFormat.bits.toNat ≤ 12 := by
  obtain ⟨hbaud, ⟨hfive, hdata⟩, hone, hstop⟩ := validate_eq_ok_iff.mp hvalid
  have hfive : 5 ≤ params.dataBits.toNat := UInt8.le_iff_toNat_le.mp hfive
  have hdata : params.dataBits.toNat ≤ 8 := UInt8.le_iff_toNat_le.mp hdata
  have hone : 1 ≤ params.stopBits.toNat := UInt8.le_iff_toNat_le.mp hone
  have hstop : params.stopBits.toNat ≤ 2 := UInt8.le_iff_toNat_le.mp hstop
  rw [toNat_bits_charFormat hvalid]
  refine ⟨Nat.one_le_iff_ne_zero.mpr fun hzero => hbaud (UInt32.toNat_inj.mp hzero), ?_, ?_⟩
  · split <;> omega
  · split <;> omega

end LineParams

end InstrumentLink
