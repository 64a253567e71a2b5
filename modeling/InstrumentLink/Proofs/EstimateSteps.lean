import InstrumentLink.Proofs.LineAgreement

/-!
# An estimate, step by step

A machine works an estimate out in words of 64 and 32 bits and keeps the result as
seconds and nanoseconds.  Any of these steps could leave its words or divide by zero;
none does but the two products in front, and these exactly where the number of bits,
a thousand times over, has no word.  Up to there the estimate is the least time that
is long enough.
-/

namespace InstrumentLink

/-- The steps of an estimate that could go wrong, in the order in which they are made. -/
inductive EstimateStep where
  /-- Characters times bits per character. -/
  | lineBits
  /-- A thousand times as much. -/
  | scaling
  /-- The quotient by the bit rate, and what remains. -/
  | quotient
  /-- One more, if anything remains. -/
  | roundingUp
  /-- The milliseconds within a second, as nanoseconds. -/
  | fraction
  /-- The seconds of two spans. -/
  | seconds
  /-- The nanoseconds of two spans. -/
  | nanoseconds
  /-- The second that the nanoseconds of two spans make up. -/
  | carry
  deriving DecidableEq, Repr

namespace EstimateStep

/-- The 64-bit word for a number, if it has one. -/
def word (step : EstimateStep) (value : Nat) : Except EstimateStep UInt64 :=
  if value < UInt64.size then .ok (UInt64.ofNat value) else .error step

def halfWord (step : EstimateStep) (value : Nat) : Except EstimateStep UInt32 :=
  if value < UInt32.size then .ok (UInt32.ofNat value) else .error step

variable {step : EstimateStep} {value : Nat}

theorem word_of_lt (step : EstimateStep) (hfits : value < UInt64.size) :
    ∃ result, step.word value = .ok result ∧ result.toNat = value :=
  ⟨UInt64.ofNat value, if_pos hfits, UInt64.toNat_ofNat_of_lt' hfits⟩

theorem word_of_le (hleaves : UInt64.size ≤ value) : step.word value = .error step :=
  if_neg (Nat.not_lt.mpr hleaves)

theorem halfWord_of_lt (step : EstimateStep) (hfits : value < UInt32.size) :
    ∃ result, step.halfWord value = .ok result ∧ result.toNat = value :=
  ⟨UInt32.ofNat value, if_pos hfits, UInt32.toNat_ofNat_of_lt' hfits⟩

end EstimateStep

structure Span where
  seconds : UInt64
  nanos : UInt32
  deriving DecidableEq, Repr

namespace Span

def millis (span : Span) : Nat := span.seconds.toNat * 1000 + span.nanos.toNat / 1000000

/-- The nanoseconds make up whole milliseconds, and less than a second. -/
def Exact (span : Span) : Prop :=
  span.nanos.toNat < 1000000000 ∧ span.nanos.toNat % 1000000 = 0

def ofMillis (millis : UInt64) : Except EstimateStep Span := do
  let nanos ← EstimateStep.halfWord .fraction (millis.toNat % 1000 * 1000000)
  return { seconds := millis / 1000, nanos }

def add (first more : Span) : Except EstimateStep Span := do
  let seconds ← EstimateStep.word .seconds (first.seconds.toNat + more.seconds.toNat)
  let nanos ← EstimateStep.halfWord .nanoseconds (first.nanos.toNat + more.nanos.toNat)
  if nanos.toNat < 1000000000 then return { seconds, nanos }
  else
    let carried ← EstimateStep.word .carry (seconds.toNat + 1)
    return { seconds := carried, nanos := nanos - 1000000000 }

theorem ofMillis_exact (millis : UInt64) :
    ∃ span, ofMillis millis = .ok span ∧ span.millis = millis.toNat ∧ span.Exact ∧
      span.seconds.toNat = millis.toNat / 1000 := by
  have hless : millis.toNat % 1000 < 1000 := Nat.mod_lt _ (by decide)
  have hfits : millis.toNat % 1000 * 1000000 < UInt32.size := by
    rw [UInt32.size]
    omega
  obtain ⟨nanos, hnanos, hvalue⟩ :=
    EstimateStep.halfWord_of_lt .fraction hfits
  have hseconds : (millis / 1000).toNat = millis.toNat / 1000 := UInt64.toNat_div millis 1000
  refine ⟨{ seconds := millis / 1000, nanos }, ?_, ?_, ⟨?_, ?_⟩, hseconds⟩
  · rw [ofMillis, hnanos]
    rfl
  · rw [Span.millis, hseconds, hvalue]
    omega
  · dsimp only
    omega
  · dsimp only
    omega

/-- Two spans have a sum, unless it takes them to the end of all seconds. -/
theorem add_exact {first more : Span} (hfirst : first.Exact) (hmore : more.Exact)
    (hroom : first.seconds.toNat + more.seconds.toNat + 1 < UInt64.size) :
    ∃ span, first.add more = .ok span ∧ span.millis = first.millis + more.millis := by
  obtain ⟨hfirst, hfirstWhole⟩ := hfirst
  obtain ⟨hmore, hmoreWhole⟩ := hmore
  have hfits : first.nanos.toNat + more.nanos.toNat < UInt32.size := by
    rw [UInt32.size]
    omega
  obtain ⟨seconds, hseconds, hsum⟩ :=
    EstimateStep.word_of_lt .seconds (Nat.lt_of_succ_lt hroom)
  obtain ⟨nanos, hnanos, htogether⟩ := EstimateStep.halfWord_of_lt .nanoseconds hfits
  have hunfold : first.add more =
      if nanos.toNat < 1000000000 then .ok { seconds, nanos }
      else do
        let carried ← EstimateStep.word .carry (seconds.toNat + 1)
        return { seconds := carried, nanos := nanos - 1000000000 } := by
    rw [add, hseconds]
    simp only [bind, Except.bind, hnanos]
    rfl
  rw [hunfold]
  split
  · refine ⟨_, rfl, ?_⟩
    simp only [millis, hsum, htogether]
    omega
  · next hfull =>
      obtain ⟨carried, hcarry, hone⟩ := EstimateStep.word_of_lt .carry (hsum ▸ hroom)
      have hback : (nanos - 1000000000).toNat = nanos.toNat - 1000000000 :=
        UInt32.toNat_sub_of_le _ _ (UInt32.le_iff_toNat_le.mpr (Nat.not_lt.mp hfull))
      refine ⟨_, by rw [hcarry]; rfl, ?_⟩
      simp only [millis, hone, hsum, hback, htogether]
      omega

end Span

namespace CharFormat

variable {format : CharFormat} {bytes : UInt64}

def divideUp (total rate : UInt64) : Except EstimateStep UInt64 :=
  if rate = 0 then .error .quotient
  else if total % rate = 0 then .ok (total / rate)
  else EstimateStep.word .roundingUp ((total / rate).toNat + 1)

/-- The time that characters take, as a machine works it out. -/
def transferSpan (format : CharFormat) (bytes : UInt64) : Except EstimateStep Span :=
  if format.baud = 0 then .ok { seconds := 0, nanos := 0 }
  else do
    let bits ← EstimateStep.word .lineBits (bytes.toNat * format.bits.toNat)
    let scaled ← EstimateStep.word .scaling (bits.toNat * 1000)
    let millis ← divideUp scaled format.baud.toUInt64
    Span.ofMillis millis

def timeoutSpan (format : CharFormat) (bytes : UInt64) : Except EstimateStep Span := do
  let time ← format.transferSpan bytes
  let margin ← Span.ofMillis (UInt64.ofNat Handle.transferMargin)
  time.add margin

/-- A rest is left only by a rate of two or more, and then the quotient has room for one more. -/
theorem divideUp_exact (total : UInt64) {rate : UInt64} (hrate : rate ≠ 0) :
    ∃ result, divideUp total rate = .ok result ∧
      result.toNat = total.toNat ⌈/⌉ rate.toNat := by
  have hpos : 0 < rate.toNat :=
    Nat.pos_of_ne_zero fun hzero => hrate (UInt64.toNat_inj.mp hzero)
  have hquotient : (total / rate).toNat = total.toNat / rate.toNat := UInt64.toNat_div total rate
  have hrest : total % rate = 0 ↔ total.toNat % rate.toNat = 0 := by
    rw [← UInt64.toNat_inj, UInt64.toNat_mod]
    rfl
  rw [← divUp_eq_ceilDiv hpos, divUp, divideUp, if_neg hrate]
  by_cases hexact : total.toNat % rate.toNat = 0
  · rw [if_pos (hrest.mpr hexact), if_pos hexact]
    exact ⟨_, rfl, hquotient⟩
  · have htwo : 2 ≤ rate.toNat := by
      by_contra hless
      have hone : rate.toNat = 1 := by omega
      rw [hone, Nat.mod_one] at hexact
      exact hexact rfl
    have hhalf : total.toNat / rate.toNat ≤ total.toNat / 2 :=
      Nat.div_le_div_left htwo (by decide)
    have htotal : total.toNat < UInt64.size := total.toNat_lt_size
    have hfits : (total / rate).toNat + 1 < UInt64.size := by
      rw [hquotient]
      rw [UInt64.size] at htotal ⊢
      omega
    rw [if_neg (mt hrest.mp hexact), if_neg hexact, ← hquotient]
    exact EstimateStep.word_of_lt _ hfits

theorem transferSpan_of_baud_zero (hbaud : format.baud = 0) :
    format.transferSpan bytes = .ok { seconds := 0, nanos := 0 } :=
  if_pos hbaud

theorem transferSpan_of_lineBits (hbaud : format.baud ≠ 0)
    (hleaves : UInt64.size ≤ bytes.toNat * format.bits.toNat) :
    format.transferSpan bytes = .error .lineBits := by
  rw [transferSpan, if_neg hbaud, EstimateStep.word_of_le hleaves]
  rfl

theorem transferSpan_of_scaling (hbaud : format.baud ≠ 0)
    (hbits : bytes.toNat * format.bits.toNat < UInt64.size)
    (hleaves : UInt64.size ≤ bytes.toNat * format.bits.toNat * 1000) :
    format.transferSpan bytes = .error .scaling := by
  obtain ⟨bits, hword, hvalue⟩ := EstimateStep.word_of_lt .lineBits hbits
  rw [transferSpan, if_neg hbaud, hword]
  simp only [bind, Except.bind, hvalue, EstimateStep.word_of_le hleaves]

theorem transferSpan_of_fits (hbaud : format.baud ≠ 0)
    (hfits : bytes.toNat * format.bits.toNat * 1000 < UInt64.size) :
    ∃ span, format.transferSpan bytes = .ok span ∧ span.Exact ∧
      span.millis = (bytes.toNat * format.bits.toNat * 1000) ⌈/⌉ format.baud.toNat ∧
      span.seconds.toNat < UInt64.size / 1000 + 1 := by
  have hbits : bytes.toNat * format.bits.toNat < UInt64.size := by omega
  have hrate : format.baud.toUInt64 ≠ 0 := fun hzero => hbaud
    (UInt32.toNat_inj.mp (by simpa using congrArg UInt64.toNat hzero))
  obtain ⟨bits, hword, hvalue⟩ := EstimateStep.word_of_lt .lineBits hbits
  have hscale : bits.toNat * 1000 < UInt64.size := hvalue ▸ hfits
  obtain ⟨scaled, hscaled, htotal⟩ := EstimateStep.word_of_lt .scaling hscale
  obtain ⟨millis, hdivided, hmillis⟩ := divideUp_exact scaled hrate
  obtain ⟨span, hspan, hwhole, hexact, hseconds⟩ := Span.ofMillis_exact millis
  refine ⟨span, ?_, hexact, ?_, ?_⟩
  · rw [transferSpan, if_neg hbaud, hword]
    simp only [bind, Except.bind, hscaled, hdivided, hspan]
  · rw [hwhole, hmillis, htotal, hvalue, UInt32.toNat_toUInt64]
  · have hword : millis.toNat < UInt64.size := millis.toNat_lt_size
    rw [UInt64.size] at hword ⊢
    omega

theorem exists_error_transferSpan (hbaud : format.baud ≠ 0)
    (hleaves : UInt64.size ≤ bytes.toNat * format.bits.toNat * 1000) :
    ∃ step, format.transferSpan bytes = .error step := by
  by_cases hbits : bytes.toNat * format.bits.toNat < UInt64.size
  · exact ⟨.scaling, transferSpan_of_scaling hbaud hbits hleaves⟩
  · exact ⟨.lineBits, transferSpan_of_lineBits hbaud (Nat.not_lt.mp hbits)⟩

/-- The products in front are the only steps that go wrong. -/
theorem transferSpan_eq_error_iff {step : EstimateStep} :
    format.transferSpan bytes = .error step ↔ format.baud ≠ 0 ∧
      (step = .lineBits ∧ UInt64.size ≤ bytes.toNat * format.bits.toNat ∨
        step = .scaling ∧ bytes.toNat * format.bits.toNat < UInt64.size ∧
          UInt64.size ≤ bytes.toNat * format.bits.toNat * 1000) := by
  by_cases hbaud : format.baud = 0
  · simp [transferSpan_of_baud_zero hbaud, hbaud]
  by_cases hbits : bytes.toNat * format.bits.toNat < UInt64.size
  · by_cases hfits : bytes.toNat * format.bits.toNat * 1000 < UInt64.size
    · obtain ⟨span, hspan, _⟩ := transferSpan_of_fits hbaud hfits
      simp [hspan, hbits, hfits]
    · have hleaves := Nat.not_lt.mp hfits
      simp [transferSpan_of_scaling hbaud hbits hleaves, hbaud, hbits, hleaves, eq_comm]
  · have hleaves := Nat.not_lt.mp hbits
    simp [transferSpan_of_lineBits hbaud hleaves, hbaud, hbits, hleaves, eq_comm]

/-- Where the estimate has a value, the steps lead to it. -/
theorem millis_transferSpan :
    (format.transferSpan bytes).toOption.map Span.millis =
      format.transferTime? bytes.toNat := by
  by_cases hbaud : format.baud = 0
  · rw [transferSpan_of_baud_zero hbaud, transferTime?_of_baud_zero hbaud]
    rfl
  by_cases hfits : bytes.toNat * format.bits.toNat * 1000 < UInt64.size
  · obtain ⟨span, hspan, _, hmillis, _⟩ := transferSpan_of_fits hbaud hfits
    rw [transferTime?_eq hbaud hfits, hspan, ← hmillis]
    rfl
  · obtain ⟨step, hfails⟩ := exists_error_transferSpan hbaud (Nat.not_lt.mp hfits)
    rw [transferTime?_eq_none_iff.mpr ⟨hbaud, Nat.not_lt.mp hfits⟩, hfails]
    rfl

theorem exact_of_transferSpan {span : Span} (hspan : format.transferSpan bytes = .ok span) :
    span.Exact ∧ span.seconds.toNat < UInt64.size / 1000 + 1 := by
  by_cases hbaud : format.baud = 0
  · rw [transferSpan_of_baud_zero hbaud] at hspan
    cases hspan
    exact ⟨⟨by decide, by decide⟩, by decide⟩
  by_cases hfits : bytes.toNat * format.bits.toNat * 1000 < UInt64.size
  · obtain ⟨_, hsame, hexact, _, hless⟩ := transferSpan_of_fits hbaud hfits
    cases hspan.symm.trans hsame
    exact ⟨hexact, hless⟩
  · obtain ⟨step, hfails⟩ := exists_error_transferSpan hbaud (Nat.not_lt.mp hfits)
    cases hspan.symm.trans hfails

/-- The margin can always be added to an estimate that has a value. -/
theorem timeoutSpan_of_ok {span : Span} (hspan : format.transferSpan bytes = .ok span) :
    ∃ longer, format.timeoutSpan bytes = .ok longer ∧
      longer.millis = span.millis + Handle.transferMargin := by
  obtain ⟨margin, hmargin, hmillis, hexact, hseconds⟩ :=
    Span.ofMillis_exact (UInt64.ofNat Handle.transferMargin)
  have hvalue : (UInt64.ofNat Handle.transferMargin).toNat = Handle.transferMargin := rfl
  have hnone : margin.seconds.toNat = 0 := hseconds.trans (by rw [hvalue]; rfl)
  obtain ⟨hwhole, hless⟩ := exact_of_transferSpan hspan
  have hroom : span.seconds.toNat + margin.seconds.toNat + 1 < UInt64.size := by
    rw [UInt64.size] at hless ⊢
    omega
  obtain ⟨longer, hsum, htogether⟩ := Span.add_exact hwhole hexact hroom
  refine ⟨longer, ?_, ?_⟩
  · rw [timeoutSpan, hspan]
    simp only [bind, Except.bind, hmargin, hsum]
  · rw [htogether, hmillis, hvalue]

theorem timeoutSpan_of_error {step : EstimateStep}
    (hfails : format.transferSpan bytes = .error step) :
    format.timeoutSpan bytes = .error step := by
  rw [timeoutSpan, hfails]
  rfl

theorem timeoutSpan_eq_error_iff {step : EstimateStep} :
    format.timeoutSpan bytes = .error step ↔ format.transferSpan bytes = .error step := by
  cases hspan : format.transferSpan bytes with
  | error other => rw [timeoutSpan_of_error hspan]
  | ok span =>
      obtain ⟨longer, hlonger, _⟩ := timeoutSpan_of_ok hspan
      simp [hlonger]

theorem millis_timeoutSpan :
    (format.timeoutSpan bytes).toOption.map Span.millis =
      (format.transferTime? bytes.toNat).map (· + Handle.transferMargin) := by
  rw [← millis_transferSpan]
  cases hspan : format.transferSpan bytes with
  | error step => rw [timeoutSpan_of_error hspan]; rfl
  | ok span =>
      obtain ⟨longer, hlonger, hmillis⟩ := timeoutSpan_of_ok hspan
      rw [hlonger]
      exact congrArg some hmillis

/-- An estimate is the least number of milliseconds in which the characters fit on the
line; more characters never take less time, and two parts take as long apart as together
or one millisecond longer.  There is none exactly if the line has a rate and the bits, a
thousand times over, do not fit in 64.  Worked out word by word it goes wrong there and
nowhere else, in the first of the two products that does not fit, and that the margin
of a handle is added changes nothing about it. -/
theorem estimate_exact (format : CharFormat) :
    (format.baud ≠ 0 →
      (∀ characters, characters * format.bits.toNat * 1000 < UInt64.size →
        ∃ time, format.transferTime? characters = some time ∧
          IsLeast {time | characters * format.bits.toNat * 1000 ≤ time * format.baud.toNat}
            time) ∧
      (∀ fewer more, fewer ≤ more → more * format.bits.toNat * 1000 < UInt64.size →
        ∃ short long, format.transferTime? fewer = some short ∧
          format.transferTime? more = some long ∧ short ≤ long) ∧
      ∀ first more, (first + more) * format.bits.toNat * 1000 < UInt64.size →
        ∃ early late whole, format.transferTime? first = some early ∧
          format.transferTime? more = some late ∧
          format.transferTime? (first + more) = some whole ∧
          (early + late = whole ∨ early + late = whole + 1)) ∧
    (∀ characters, format.transferTime? characters = none ↔
      format.baud ≠ 0 ∧ UInt64.size ≤ characters * format.bits.toNat * 1000) ∧
    (∀ (bytes : UInt64) (step : EstimateStep), format.transferSpan bytes = .error step ↔
      format.baud ≠ 0 ∧
        (step = .lineBits ∧ UInt64.size ≤ bytes.toNat * format.bits.toNat ∨
          step = .scaling ∧ bytes.toNat * format.bits.toNat < UInt64.size ∧
            UInt64.size ≤ bytes.toNat * format.bits.toNat * 1000)) ∧
    (∀ (bytes : UInt64) (step : EstimateStep),
      format.timeoutSpan bytes = .error step ↔ format.transferSpan bytes = .error step) ∧
    (∀ bytes : UInt64, (format.transferSpan bytes).toOption.map Span.millis =
      format.transferTime? bytes.toNat) ∧
    ∀ {σ : Type} (transport : Transport σ) (station : Station σ) (bytes : UInt64),
      Handle.estimateFormat transport station = format →
        ((Handle.transferTimeout? transport bytes.toNat).outcome station).1 =
          .ok ((format.timeoutSpan bytes).toOption.map Span.millis) := by
  refine ⟨fun hbaud => ?_, fun _ => transferTime?_eq_none_iff, fun _ _ => transferSpan_eq_error_iff,
    fun _ _ => timeoutSpan_eq_error_iff, fun _ => millis_transferSpan, ?_⟩
  · have hrate : 0 < format.baud.toNat :=
      Nat.pos_of_ne_zero fun hzero => hbaud (UInt32.toNat_inj.mp hzero)
    have hless : ∀ {fewer more : Nat}, fewer ≤ more →
        fewer * format.bits.toNat * 1000 ≤ more * format.bits.toNat * 1000 :=
      fun hle => Nat.mul_le_mul_right _ (Nat.mul_le_mul_right _ hle)
    refine ⟨fun characters hfits => ?_, fun fewer more hle hfits => ?_, fun first more hfits => ?_⟩
    · exact ⟨_, transferTime?_eq hbaud hfits, isLeast_ceilDiv hrate _⟩
    · have hfewer := Nat.lt_of_le_of_lt (hless hle) hfits
      exact ⟨_, _, transferTime?_eq hbaud hfewer, transferTime?_eq hbaud hfits,
        ceilDiv_mono hrate (hless hle)⟩
    · have hfirst := Nat.lt_of_le_of_lt (hless (Nat.le_add_right first more)) hfits
      have hmore := Nat.lt_of_le_of_lt (hless (Nat.le_add_left more first)) hfits
      refine ⟨_, _, _, transferTime?_eq hbaud hfirst, transferTime?_eq hbaud hmore,
        transferTime?_eq hbaud hfits, ?_⟩
      rw [Nat.add_mul, Nat.add_mul]
      exact ceilDiv_add_ceilDiv hrate _ _
  · rintro σ transport station bytes rfl
    rw [Handle.result_of_transferTimeout?, millis_timeoutSpan]

/-- The longest estimate at 7 bits a second and 11 bits a character, worked out in two
parts, and the one character more that does not fit; the line is known to a handle. -/
theorem estimate_exact_at_the_end :
    let format : CharFormat := { baud := 7, bits := 11 }
    let last := 1676976733973595
    format.baud ≠ 0 ∧
      last * format.bits.toNat * 1000 < UInt64.size ∧
      (∃ time, format.transferTime? last = some time ∧
        IsLeast {time | last * format.bits.toNat * 1000 ≤ time * format.baud.toNat} time) ∧
      (∃ short long, format.transferTime? 1 = some short ∧
        format.transferTime? last = some long ∧ short ≤ long) ∧
      (∃ early late whole, format.transferTime? 1 = some early ∧
        format.transferTime? 1676976733973594 = some late ∧
        format.transferTime? last = some whole ∧
        (early + late = whole ∨ early + late = whole + 1)) ∧
      format.transferTime? (last + 1) = none ∧
      format.transferSpan 1676976733973596 = .error .scaling ∧
      format.timeoutSpan 1844674407370955162 = .error .lineBits ∧
      Handle.estimateFormat Scripted.transport
          { handle := { key := 0, connection := .serial "/dev/ttyS0" }, world := {} } =
        .fallback ∧
      ((Handle.transferTimeout? Scripted.transport 96).outcome
        { handle := { key := 0, connection := .serial "/dev/ttyS0" }, world := {} }).1 =
          .ok (some 110) := by
  intro format last
  obtain ⟨hexact, hnone, hsteps, htimeout, _, _⟩ := estimate_exact format
  obtain ⟨_, _, _, _, _, hhandle⟩ := estimate_exact .fallback
  have hbaud : format.baud ≠ 0 := by decide
  have hfits : last * format.bits.toNat * 1000 < UInt64.size := by decide
  obtain ⟨hleast, hmono, hparts⟩ := hexact hbaud
  refine ⟨hbaud, hfits, hleast last hfits, hmono 1 last (by decide) hfits,
    hparts 1 1676976733973594 hfits, (hnone _).mpr ⟨hbaud, by decide⟩,
    (hsteps _ _).mpr ⟨hbaud, .inr ⟨rfl, by decide, by decide⟩⟩,
    (htimeout _ _).mpr ((hsteps _ _).mpr ⟨hbaud, .inl ⟨rfl, by decide⟩⟩), rfl, ?_⟩
  exact (hhandle Scripted.transport _ 96 rfl).trans (by decide)

end CharFormat

end InstrumentLink
