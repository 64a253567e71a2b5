import InstrumentLink.Proofs.LineSpelling

/-!
# Line parameters through text and back

What is written for line parameters is one spelling among many: plain digits, a
small letter, and only the options that say something, each once and always in the
same order.  If a line can carry the parameters, it is read as them; if none can, the
text is not read as them.  So texts of the same parameters have one written form.
-/

namespace InstrumentLink.LineParams

def settings (params : LineParams) : List Setting :=
  (params.rts.map Setting.rts).toList ++ (params.dtr.map Setting.dtr).toList ++
    if params.flow = .none then [] else [.flow params.flow]

theorem foldl_settings (params : LineParams) (shaped : LineParams)
    (hflow : shaped.flow = .none) (hrts : shaped.rts = none) (hdtr : shaped.dtr = none) :
    params.settings.foldl Setting.apply shaped =
      { shaped with flow := params.flow, rts := params.rts, dtr := params.dtr } := by
  rw [foldl_apply, hflow, hrts, hdtr]
  obtain ⟨_, _, _, _, flow, rts, dtr⟩ := params
  cases rts <;> cases dtr <;> cases flow <;> rfl

/-- The options are written behind the shape, each with a slash in front. -/
theorem renderChars_eq (params : LineParams) :
    params.renderChars =
      Nat.toDigits 10 params.baud.toNat ++
        '/' :: (Nat.toDigits 10 params.dataBits.toNat ++
          params.parity.letter :: Nat.toDigits 10 params.stopBits.toNat) ++
        params.settings.flatMap fun setting => '/' :: setting.text.toList := by
  obtain ⟨baud, dataBits, parity, stopBits, flow, rts, dtr⟩ := params
  rw [renderChars, settings, List.flatMap_append, List.flatMap_append, ← List.append_assoc,
    ← List.append_assoc]
  congr 1
  · congr 1
    · congr 1
      rcases rts with _ | _ | _ <;> rfl
    · rcases dtr with _ | _ | _ <;> rfl
  · cases flow with
    | none => rfl
    | hardware => simp only [reduceCtorEq, if_false]; rfl
    | software => simp only [reduceCtorEq, if_false]; rfl

/-- The spelling that is written. -/
def written (params : LineParams) (hvalid : params.validate = .ok ()) : Spelling where
  digits := Nat.toDigits 10 params.baud.toNat
  digits_ne_nil := Nat.toDigits_ne_nil
  isDigit _ hdigit := Nat.isDigit_of_mem_toDigits (by decide) (by decide) hdigit
  baud_pos := by
    rw [Nat.ofDigitChars_ten_toDigits]
    exact Nat.one_le_iff_ne_zero.mpr fun hzero =>
      (validate_eq_ok_iff.mp hvalid).1 (UInt32.toNat_inj.mp hzero)
  baud_le := by
    rw [Nat.ofDigitChars_ten_toDigits]
    exact Nat.le_of_lt_succ params.baud.toNat_lt
  dataBits := params.dataBits
  five_le_dataBits := (validate_eq_ok_iff.mp hvalid).2.1.1
  dataBits_le := (validate_eq_ok_iff.mp hvalid).2.1.2
  parity := params.parity
  stopBits := params.stopBits
  one_le_stopBits := (validate_eq_ok_iff.mp hvalid).2.2.1
  stopBits_le := (validate_eq_ok_iff.mp hvalid).2.2.2
  settings := params.settings

variable {params : LineParams} (hvalid : params.validate = .ok ())

theorem params_written : (params.written hvalid).params = params := by
  have hbaud : (params.written hvalid).params.baud = params.baud := by
    rw [← UInt32.toNat_inj, Spelling.toNat_baud, written, Nat.ofDigitChars_ten_toDigits]
  rw [← Spelling.foldl_settings]
  change params.settings.foldl Setting.apply (params.written hvalid).shaped = _
  rw [foldl_settings _ _ rfl rfl rfl, Spelling.shaped, hbaud, written]

/-- The spelling that is written is what is written. -/
theorem text_written : (params.written hvalid).text = params.render := by
  obtain ⟨_, ⟨_, hdata⟩, _, hstop⟩ := validate_eq_ok_iff.mp hvalid
  have hdataDigit : Nat.toDigits 10 params.dataBits.toNat = [params.dataBits.toNat.digitChar] :=
    Nat.toDigits_of_lt_base
      (Nat.lt_of_le_of_lt (UInt8.le_iff_toNat_le.mp hdata) (by decide))
  have hstopDigit : Nat.toDigits 10 params.stopBits.toNat = [params.stopBits.toNat.digitChar] :=
    Nat.toDigits_of_lt_base
      (Nat.lt_of_le_of_lt (UInt8.le_iff_toNat_le.mp hstop) (by decide))
  have hfields : ((params.written hvalid).fields).map String.toList =
      Nat.toDigits 10 params.baud.toNat ::
        [params.dataBits.toNat.digitChar, params.parity.letter, params.stopBits.toNat.digitChar] ::
          params.settings.map (fun setting => setting.text.toList) := by
    simp [Spelling.fields, Spelling.shape, written, Text.signed, Parity.written,
      Function.comp_def]
  rw [← String.toList_inj, Spelling.text, String.toList_intercalate, hfields]
  change ['/'].intercalate _ = _
  rw [Text.intercalate_cons, List.flatMap_cons, List.flatMap_map, render, String.toList_ofList,
    renderChars_eq, hdataDigit, hstopDigit]
  simp

/-- Text is a faithful form of line parameters: those that a line can carry are the
ones that are read back from what is written for them, and whatever is read can be
carried, and written and read again. -/
theorem render_faithful :
    (∀ params : LineParams, params.validate = .ok () ↔ parse params.render = .ok params) ∧
    ∀ text params, parse text = .ok params →
      params.validate = .ok () ∧ parse params.render = .ok params := by
  have hwritten : ∀ params : LineParams, params.validate = .ok () →
      parse params.render = .ok params := by
    intro params hvalid
    rw [← text_written hvalid, Spelling.parse_text, params_written]
  have hread : ∀ text params, parse text = .ok params → params.validate = .ok () := by
    intro text params hparse
    obtain ⟨spelling, _, rfl⟩ := parse_eq_ok_iff.mp hparse
    exact spelling.validate_params
  constructor
  · intro params
    exact ⟨hwritten params, hread params.render params⟩
  · intro text params hparse
    have hvalid := hread text params hparse
    exact ⟨hvalid, hwritten params hvalid⟩

/-- A text with an upper-case letter, zeros and an option given twice, and what is
written for it. -/
theorem render_faithful_rewritten :
    ∃ params, parse "+0300/7E2/flow=1/rts=1/rts=0" = .ok params ∧
      params.validate = .ok () ∧ params.render = "300/7e2/rts=0/flow=1" ∧
      parse "300/7e2/rts=0/flow=1" = .ok params := by
  let params : LineParams :=
    { baud := 300, dataBits := 7, parity := .even, stopBits := 2, flow := .hardware
      rts := some false }
  let spelling : Spelling :=
    { plus := true, digits := ['0', '3', '0', '0'], dataBits := 7, parity := .even, upper := true
      stopBits := 2, settings := [.flow .hardware, .rts true, .rts false] }
  have htext : spelling.text = "+0300/7E2/flow=1/rts=1/rts=0" := by decide
  have hparams : spelling.params = params := by decide
  have hread : parse "+0300/7E2/flow=1/rts=1/rts=0" = .ok params := by
    rw [← htext, ← hparams]
    exact spelling.parse_text
  have hrender : params.render = "300/7e2/rts=0/flow=1" := by decide +kernel
  obtain ⟨hvalid, hagain⟩ := render_faithful.2 "+0300/7E2/flow=1/rts=1/rts=0" params hread
  rw [hrender] at hagain
  exact ⟨params, hread, hvalid, hrender, hagain⟩

end InstrumentLink.LineParams
