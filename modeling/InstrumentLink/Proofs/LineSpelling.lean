import InstrumentLink.Line.Text
import InstrumentLink.Proofs.Blame
import InstrumentLink.Proofs.SlashFields

/-!
# Spellings of line parameters

A spelling is one way to write line parameters down.  The bit rate may have a plus
sign and zeros in front, the parity letter may be in either case, and options come
in any order and may be repeated, in which case the last one counts.  A text is read
as line parameters exactly if it is the text of a spelling.
-/

namespace InstrumentLink

namespace Text

/-- Digits with a plus sign in front, or without. -/
def signed (plus : Bool) (digits : List Char) : List Char :=
  if plus then '+' :: digits else digits

/-- At most one plus sign is taken off the front of a number. -/
theorem unsigned?_signed (bound : Nat) {plus : Bool} {digits : List Char}
    (hplus : plus = true ∨ digits.head? ≠ some '+') :
    unsigned? bound (signed plus digits) =
      if digits ≠ [] ∧ digits.all Char.isDigit ∧ Nat.ofDigitChars 10 digits 0 < bound then
        some (Nat.ofDigitChars 10 digits 0) else none := by
  cases plus with
  | true => rfl
  | false =>
      cases digits with
      | nil => rfl
      | cons first rest =>
          have hfirst : first ≠ '+' := by simpa using hplus
          simp [unsigned?, signed, hfirst]

theorem unsigned?_eq_some_iff {bound value : Nat} {text : List Char} :
    unsigned? bound text = some value ↔
      ∃ plus digits, text = signed plus digits ∧ digits ≠ [] ∧
        (∀ c ∈ digits, c.isDigit = true) ∧ Nat.ofDigitChars 10 digits 0 = value ∧
        value < bound := by
  constructor
  · intro hread
    have hsigned : ∃ plus digits, text = signed plus digits ∧
        (plus = true ∨ digits.head? ≠ some '+') := by
      by_cases hhead : text.head? = some '+'
      · obtain ⟨rest, rfl⟩ := List.head?_eq_some_iff.mp hhead
        exact ⟨true, rest, rfl, .inl rfl⟩
      · exact ⟨false, text, rfl, .inr hhead⟩
    obtain ⟨plus, digits, rfl, hplus⟩ := hsigned
    rw [unsigned?_signed bound hplus] at hread
    obtain ⟨⟨hsome, hall, hbound⟩, hvalue⟩ := Option.ite_none_right_eq_some.mp hread
    cases hvalue
    exact ⟨plus, digits, rfl, hsome, List.all_eq_true.mp hall, rfl, hbound⟩
  · rintro ⟨plus, digits, rfl, hsome, hdigits, rfl, hbound⟩
    have hhead : digits.head? ≠ some '+' := by
      intro hplus
      cases hdigits '+' (List.mem_of_mem_head? hplus)
    rw [unsigned?_signed bound (.inr hhead),
      if_pos ⟨hsome, List.all_eq_true.mpr hdigits, hbound⟩]

end Text

namespace Parity

def written (parity : Parity) (upper : Bool) : Char :=
  if upper then parity.letter.toUpper else parity.letter

theorem ofLetter?_eq_some_iff {letter : Char} {parity : Parity} :
    ofLetter? letter = some parity ↔ ∃ upper, letter = parity.written upper := by
  constructor
  · intro hread
    unfold ofLetter? at hread
    split at hread <;> cases hread <;> decide
  · rintro ⟨upper, rfl⟩
    cases parity <;> cases upper <;> rfl

end Parity

theorem bind_eq_ok_iff {α β : Type} {first : Except LinkError α} {next : α → Except LinkError β}
    {result : β} :
    (first >>= next) = .ok result ↔ ∃ value, first = .ok value ∧ next value = .ok result := by
  constructor
  · intro hbind
    cases first with
    | ok value => exact ⟨value, rfl, hbind⟩
    | error error => cases hbind
  · rintro ⟨value, rfl, hnext⟩
    exact hnext

namespace LineParams

theorem baud?_eq_some_iff {field : List Char} {baud : UInt32} :
    baud? field = some baud ↔
      ∃ plus digits, field = Text.signed plus digits ∧ digits ≠ [] ∧
        (∀ c ∈ digits, c.isDigit = true) ∧ Nat.ofDigitChars 10 digits 0 = baud.toNat := by
  simp only [baud?, Option.map_eq_some_iff, Text.unsigned?_eq_some_iff]
  constructor
  · rintro ⟨value, ⟨plus, digits, hfield, hsome, hdigits, rfl, hbound⟩, rfl⟩
    exact ⟨plus, digits, hfield, hsome, hdigits, (UInt32.toNat_ofNat_of_lt' hbound).symm⟩
  · rintro ⟨plus, digits, hfield, hsome, hdigits, hvalue⟩
    exact ⟨baud.toNat, ⟨plus, digits, hfield, hsome, hdigits, hvalue, baud.toNat_lt⟩,
      UInt32.ofNat_toNat⟩

theorem digit?_eq_some_iff {c : Char} {digit : UInt8} :
    digit? c = some digit ↔ digit.toNat < 10 ∧ c = digit.toNat.digitChar := by
  constructor
  · intro hread
    obtain ⟨hdigit, hvalue⟩ := Option.ite_none_right_eq_some.mp hread
    obtain ⟨hlow, hhigh⟩ := Char.isDigit_iff_toNat.mp hdigit
    have hlow : 48 ≤ c.toNat := hlow
    have hhigh : c.toNat ≤ 57 := hhigh
    have htoNat : digit.toNat = c.toNat - 48 := by
      rw [← Option.some.inj hvalue, Nat.ofDigitChars_cons, Nat.ofDigitChars_nil,
        UInt8.toNat_ofNat']
      simp
      omega
    have hlt : digit.toNat < 10 := by omega
    refine ⟨hlt, Char.toNat_inj.mp ?_⟩
    rw [Nat.toNat_digitChar_of_lt_ten hlt]
    omega
  · rintro ⟨hdigit, rfl⟩
    rw [digit?, if_pos (by simpa [Nat.isDigit_digitChar] using hdigit),
      Nat.ofDigitChars_cons_digitChar_of_lt_ten hdigit, Nat.ofDigitChars_nil, Nat.mul_zero,
      Nat.zero_add, UInt8.ofNat_toNat]

inductive Setting where
  | rts (level : Bool)
  | dtr (level : Bool)
  | flow (control : FlowControl)
  deriving DecidableEq, Repr

namespace Setting

def text : Setting → String
  | rts false => "rts=0"
  | rts true => "rts=1"
  | dtr false => "dtr=0"
  | dtr true => "dtr=1"
  | flow .none => "flow=0"
  | flow .hardware => "flow=1"
  | flow .software => "flow=2"

def apply (params : LineParams) : Setting → LineParams
  | rts level => { params with rts := some level }
  | dtr level => { params with dtr := some level }
  | flow control => { params with flow := control }

def rts? : Setting → Option Bool
  | rts level => some level
  | _ => none

def dtr? : Setting → Option Bool
  | dtr level => some level
  | _ => none

def flow? : Setting → Option FlowControl
  | flow control => some control
  | _ => none

end Setting

theorem append_of_keyValue? {option key value : List Char}
    (hread : keyValue? option = some (key, value)) : option = key ++ '=' :: value := by
  unfold keyValue? at hread
  split at hread
  · cases hread
  · next sign rest hrest =>
      have hsign : sign = '=' := by
        have hstop := List.head?_dropWhile_not (· != '=') option
        rw [hrest] at hstop
        simpa using hstop
      cases hread
      calc option = option.takeWhile (· != '=') ++ option.dropWhile (· != '=') :=
            List.takeWhile_append_dropWhile.symm
        _ = option.takeWhile (· != '=') ++ '=' :: value := by rw [hrest, hsign]

theorem level_eq_ok_iff {key value : List Char} {on : Bool} :
    level key value = .ok on ↔ value = [levelDigit on] := by
  unfold level
  split <;> cases on <;> simp_all [levelDigit]

theorem flowOf_eq_ok_iff {value : List Char} {control : FlowControl} :
    flowOf value = .ok control ↔ value = [control.digit] := by
  unfold flowOf
  split <;> cases control <;> simp_all [FlowControl.digit]

theorem withOption_eq_ok_iff {params after : LineParams} {option : List Char} :
    withOption params option = .ok after ↔
      ∃ setting : Setting, option = setting.text.toList ∧ after = setting.apply params := by
  constructor
  · intro hread
    unfold withOption at hread
    split at hread
    · cases hread
    · next key value hoption =>
        rw [append_of_keyValue? hoption]
        split at hread
        · obtain ⟨on, hvalue, hafter⟩ := bind_eq_ok_iff.mp hread
          rw [level_eq_ok_iff.mp hvalue]
          cases hafter
          exact ⟨.rts on, by cases on <;> rfl, rfl⟩
        · obtain ⟨on, hvalue, hafter⟩ := bind_eq_ok_iff.mp hread
          rw [level_eq_ok_iff.mp hvalue]
          cases hafter
          exact ⟨.dtr on, by cases on <;> rfl, rfl⟩
        · obtain ⟨control, hvalue, hafter⟩ := bind_eq_ok_iff.mp hread
          rw [flowOf_eq_ok_iff.mp hvalue]
          cases hafter
          exact ⟨.flow control, by cases control <;> rfl, rfl⟩
        · cases hread
  · rintro ⟨setting, rfl, rfl⟩
    cases setting with
    | rts level => cases level <;> rfl
    | dtr level => cases level <;> rfl
    | flow control => cases control <;> rfl

/-- Options are applied one after the other. -/
theorem foldlM_withOption_eq_ok_iff {shaped params : LineParams} {options : List (List Char)} :
    options.foldlM withOption shaped = .ok params ↔
      ∃ settings : List Setting, options = settings.map (fun setting => setting.text.toList) ∧
        params = settings.foldl Setting.apply shaped := by
  induction options generalizing shaped with
  | nil =>
      constructor
      · rintro ⟨⟩
        exact ⟨[], rfl, rfl⟩
      · rintro ⟨settings, hnone, rfl⟩
        rw [List.map_eq_nil_iff.mp hnone.symm]
        rfl
  | cons option rest ih =>
      rw [List.foldlM_cons, bind_eq_ok_iff]
      simp only [withOption_eq_ok_iff, ih]
      constructor
      · rintro ⟨_, ⟨setting, rfl, rfl⟩, settings, rfl, rfl⟩
        exact ⟨setting :: settings, rfl, rfl⟩
      · rintro ⟨settings, hoptions, rfl⟩
        obtain ⟨setting, more, rfl, hoption, hrest⟩ := List.map_eq_cons_iff.mp hoptions.symm
        exact ⟨_, ⟨setting, hoption.symm, rfl⟩, more, hrest.symm, rfl⟩

/-- The last one of each option counts. -/
theorem foldl_apply (settings : List Setting) (params : LineParams) :
    settings.foldl Setting.apply params =
      { params with
        rts := (settings.filterMap Setting.rts?).getLast?.or params.rts
        dtr := (settings.filterMap Setting.dtr?).getLast?.or params.dtr
        flow := (settings.filterMap Setting.flow?).getLast?.getD params.flow } := by
  induction settings generalizing params with
  | nil => rfl
  | cons setting rest ih =>
      rw [List.foldl_cons, ih]
      cases setting <;>
        simp [Setting.apply, Setting.rts?, Setting.dtr?, Setting.flow?, List.getLast?_cons]

theorem ofShape_eq_ok_iff {baud : UInt32} {shape : List Char} {params : LineParams} :
    ofShape baud shape = .ok params ↔
      ∃ dataBits parity upper stopBits, dataBits.toNat < 10 ∧ stopBits.toNat < 10 ∧
        shape = [dataBits.toNat.digitChar, Parity.written parity upper, stopBits.toNat.digitChar] ∧
        params = { baud, dataBits, parity, stopBits } := by
  constructor
  · intro hread
    unfold ofShape at hread
    split at hread
    · next data letter stop =>
        split at hread
        · cases hread
        · next dataBits hdata =>
            split at hread
            · cases hread
            · next parity hletter =>
                split at hread
                · cases hread
                · next stopBits hstop =>
                    obtain ⟨hdataLt, rfl⟩ := digit?_eq_some_iff.mp hdata
                    obtain ⟨upper, rfl⟩ := Parity.ofLetter?_eq_some_iff.mp hletter
                    obtain ⟨hstopLt, rfl⟩ := digit?_eq_some_iff.mp hstop
                    cases hread
                    exact ⟨dataBits, parity, upper, stopBits, hdataLt, hstopLt, rfl, rfl⟩
    · cases hread
  · rintro ⟨dataBits, parity, upper, stopBits, hdata, hstop, rfl, rfl⟩
    simp only [ofShape, digit?_eq_some_iff.mpr ⟨hdata, rfl⟩, digit?_eq_some_iff.mpr ⟨hstop, rfl⟩,
      Parity.ofLetter?_eq_some_iff.mpr ⟨upper, rfl⟩]

/-- The fields after the first one are a shape and options, and what they say is
validated last. -/
theorem ofFields_eq_ok_iff {baud : UInt32} {fields : List (List Char)} {params : LineParams} :
    ofFields baud fields = .ok params ↔
      ∃ shaped, ofShape baud (fields.headD []) = .ok shaped ∧
        (fields.drop 1).foldlM withOption shaped = .ok params ∧ params.validate = .ok () := by
  simp only [ofFields, bind_eq_ok_iff]
  constructor
  · rintro ⟨shaped, hshape, read, hoptions, _, hvalid, hread⟩
    cases hread
    exact ⟨shaped, hshape, hoptions, hvalid⟩
  · rintro ⟨shaped, hshape, hoptions, hvalid⟩
    exact ⟨shaped, hshape, params, hoptions, (), hvalid, rfl⟩

/-- Line parameters as they may be written: digits of the bit rate, with a plus sign or
without, the data bits, the parity letter in either case, the stop bits, and options. -/
structure Spelling where
  plus : Bool := false
  digits : List Char
  digits_ne_nil : digits ≠ [] := by decide
  isDigit : ∀ c ∈ digits, c.isDigit = true := by exact List.all_eq_true.mp rfl
  baud_pos : 1 ≤ Nat.ofDigitChars 10 digits 0 := by decide
  baud_le : Nat.ofDigitChars 10 digits 0 ≤ 4294967295 := by decide
  dataBits : UInt8
  five_le_dataBits : 5 ≤ dataBits := by decide
  dataBits_le : dataBits ≤ 8 := by decide
  parity : Parity
  upper : Bool := false
  stopBits : UInt8
  one_le_stopBits : 1 ≤ stopBits := by decide
  stopBits_le : stopBits ≤ 2 := by decide
  settings : List Setting := []

namespace Spelling

def shape (spelling : Spelling) : List Char :=
  [spelling.dataBits.toNat.digitChar, spelling.parity.written spelling.upper,
    spelling.stopBits.toNat.digitChar]

def fields (spelling : Spelling) : List String :=
  String.ofList (Text.signed spelling.plus spelling.digits) :: String.ofList spelling.shape ::
    spelling.settings.map Setting.text

def text (spelling : Spelling) : String := "/".intercalate spelling.fields

/-- What the spelling stands for; of each option the last one counts. -/
def params (spelling : Spelling) : LineParams where
  baud := UInt32.ofNat (Nat.ofDigitChars 10 spelling.digits 0)
  dataBits := spelling.dataBits
  parity := spelling.parity
  stopBits := spelling.stopBits
  flow := (spelling.settings.filterMap Setting.flow?).getLast?.getD .none
  rts := (spelling.settings.filterMap Setting.rts?).getLast?
  dtr := (spelling.settings.filterMap Setting.dtr?).getLast?

theorem toNat_baud (spelling : Spelling) :
    spelling.params.baud.toNat = Nat.ofDigitChars 10 spelling.digits 0 :=
  UInt32.toNat_ofNat_of_lt' (Nat.lt_succ_of_le spelling.baud_le)

theorem validate_params (spelling : Spelling) : spelling.params.validate = .ok () := by
  refine validate_eq_ok_iff.mpr
    ⟨?_, ⟨spelling.five_le_dataBits, spelling.dataBits_le⟩, spelling.one_le_stopBits,
      spelling.stopBits_le⟩
  intro hzero
  have hbaud := spelling.toNat_baud
  have hpos := spelling.baud_pos
  rw [hzero, UInt32.toNat_zero] at hbaud
  omega

def shaped (spelling : Spelling) : LineParams where
  baud := spelling.params.baud
  dataBits := spelling.dataBits
  parity := spelling.parity
  stopBits := spelling.stopBits

theorem foldl_settings (spelling : Spelling) :
    spelling.settings.foldl Setting.apply spelling.shaped = spelling.params := by
  rw [foldl_apply]
  simp [params, shaped]

theorem slash_not_mem_of_mem_fields (spelling : Spelling) {field : String}
    (hfield : field ∈ spelling.fields) : '/' ∉ field.toList := by
  rcases List.mem_cons.mp hfield with rfl | hfield
  · rw [String.toList_ofList]
    have hdigits : '/' ∉ spelling.digits := fun hslash => by cases spelling.isDigit '/' hslash
    cases hplus : spelling.plus <;> simpa [Text.signed, hplus] using hdigits
  · rcases List.mem_cons.mp hfield with rfl | hfield
    · have hdata : spelling.dataBits.toNat.digitChar ≠ '/' := by simp
      have hstop : spelling.stopBits.toNat.digitChar ≠ '/' := by simp
      have hletter : spelling.parity.written spelling.upper ≠ '/' := by
        cases spelling.parity <;> cases spelling.upper <;> decide
      simp [shape, hdata.symm, hstop.symm, hletter.symm]
    · obtain ⟨setting, _, rfl⟩ := List.mem_map.mp hfield
      cases setting with
      | rts level => cases level <;> decide
      | dtr level => cases level <;> decide
      | flow control => cases control <;> decide

theorem fields_text (spelling : Spelling) : Text.fields spelling.text = spelling.fields :=
  Text.fields_eq_iff.mpr ⟨List.cons_ne_nil _ _, fun _ => spelling.slash_not_mem_of_mem_fields, rfl⟩

/-- A spelling is read as what it stands for. -/
theorem parse_text (spelling : Spelling) : parse spelling.text = .ok spelling.params := by
  have hsplit : spelling.text.toList.splitOn '/' =
      Text.signed spelling.plus spelling.digits :: spelling.shape ::
        spelling.settings.map (fun setting => setting.text.toList) := by
    rw [Text.splitOn_eq_fields, spelling.fields_text]
    simp [fields, Function.comp_def]
  have hbaud : baud? (Text.signed spelling.plus spelling.digits) = some spelling.params.baud :=
    baud?_eq_some_iff.mpr ⟨spelling.plus, spelling.digits, rfl, spelling.digits_ne_nil,
      spelling.isDigit, spelling.toNat_baud.symm⟩
  have hdata : spelling.dataBits.toNat < 10 :=
    Nat.lt_of_le_of_lt (UInt8.le_iff_toNat_le.mp spelling.dataBits_le) (by decide)
  have hstop : spelling.stopBits.toNat < 10 :=
    Nat.lt_of_le_of_lt (UInt8.le_iff_toNat_le.mp spelling.stopBits_le) (by decide)
  have hshape : ofShape spelling.params.baud spelling.shape = .ok spelling.shaped :=
    ofShape_eq_ok_iff.mpr ⟨_, _, _, _, hdata, hstop, rfl, rfl⟩
  have hoptions := foldlM_withOption_eq_ok_iff.mpr
    ⟨spelling.settings, rfl, spelling.foldl_settings.symm⟩
  simp only [parse, hsplit, List.headD_cons, List.drop_succ_cons, List.drop_zero, hbaud]
  exact ofFields_eq_ok_iff.mpr ⟨_, hshape, hoptions, spelling.validate_params⟩

end Spelling

/-- The fields of a text that is read are those of a spelling of what it is read as. -/
theorem fields_of_parse {text : String} {params : LineParams} (hread : parse text = .ok params) :
    ∃ spelling : Spelling, Text.fields text = spelling.fields ∧ spelling.params = params := by
  obtain ⟨first, rest, hsplit⟩ := List.exists_cons_of_ne_nil (List.splitOn_ne_nil '/' text.toList)
  simp only [parse, hsplit, List.headD_cons, List.drop_succ_cons, List.drop_zero] at hread
  split at hread
  · cases hread
  · next baud hbaud =>
      obtain ⟨plus, digits, rfl, hsome, hdigits, hvalue⟩ := baud?_eq_some_iff.mp hbaud
      obtain ⟨shaped, hshape, hoptions, hvalid⟩ := ofFields_eq_ok_iff.mp hread
      obtain ⟨dataBits, parity, upper, stopBits, _, _, hrest, rfl⟩ := ofShape_eq_ok_iff.mp hshape
      obtain ⟨settings, hsettings, rfl⟩ := foldlM_withOption_eq_ok_iff.mp hoptions
      rw [foldl_apply] at hvalid ⊢
      obtain ⟨hnonzero, ⟨hfive, height⟩, hone, htwo⟩ := validate_eq_ok_iff.mp hvalid
      have hpos : 1 ≤ Nat.ofDigitChars 10 digits 0 := by
        rw [hvalue]
        exact Nat.one_le_iff_ne_zero.mpr fun hzero => hnonzero (UInt32.toNat_inj.mp hzero)
      have hle : Nat.ofDigitChars 10 digits 0 ≤ 4294967295 := by
        rw [hvalue]
        exact Nat.le_of_lt_succ baud.toNat_lt
      let spelling : Spelling :=
        { plus, digits, digits_ne_nil := hsome, isDigit := hdigits, baud_pos := hpos,
          baud_le := hle, dataBits, five_le_dataBits := hfive, dataBits_le := height, parity, upper,
          stopBits, one_le_stopBits := hone, stopBits_le := htwo, settings }
      have hsame : spelling.params.baud = baud :=
        UInt32.toNat_inj.mp (spelling.toNat_baud.trans hvalue)
      refine ⟨spelling, ?_, ?_⟩
      · cases rest with
        | nil => cases hrest
        | cons shape options =>
            obtain rfl : shape = _ := hrest
            obtain rfl : options = _ := hsettings
            rw [Text.fields, hsplit]
            simp [Spelling.fields, Spelling.shape, spelling]
      · rw [← spelling.foldl_settings, foldl_apply, Spelling.shaped, hsame]

/-- A text is read exactly if it is spelt, and as what the spelling stands for. -/
theorem parse_eq_ok_iff {text : String} {params : LineParams} :
    parse text = .ok params ↔
      ∃ spelling : Spelling, spelling.text = text ∧ spelling.params = params := by
  constructor
  · intro hread
    obtain ⟨spelling, hfields, hparams⟩ := fields_of_parse hread
    refine ⟨spelling, ?_, hparams⟩
    rw [Spelling.text, ← hfields, Text.intercalate_fields]
  · rintro ⟨spelling, rfl, rfl⟩
    exact spelling.parse_text

end LineParams

end InstrumentLink
