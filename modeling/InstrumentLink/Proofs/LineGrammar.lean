import InstrumentLink.Proofs.LineSpelling

/-!
# What is read as line parameters

Spellings are all that is read, and whatever else comes is the caller's mistake.  An
option that is none is refused wherever it stands, also where a later option of the
same key would have taken its place.  Only the order of options of one key matters.
-/

namespace InstrumentLink

open LinkError

namespace LineParams

theorem blames_validate (params : LineParams) : Blames OfArgument params.validate := by
  rw [validate]
  split
  · exact (blames_error _).mpr ⟨_, rfl⟩
  · split
    · exact (blames_error _).mpr ⟨_, rfl⟩
    · split
      · exact (blames_error _).mpr ⟨_, rfl⟩
      · exact blames_ok _

theorem blames_level (key value : List Char) : Blames OfArgument (level key value) := by
  unfold level
  split
  · exact blames_ok _
  · exact blames_ok _
  · exact (blames_error _).mpr ⟨_, rfl⟩

theorem blames_flowOf (value : List Char) : Blames OfArgument (flowOf value) := by
  unfold flowOf
  split
  · exact blames_ok _
  · exact blames_ok _
  · exact blames_ok _
  · exact (blames_error _).mpr ⟨_, rfl⟩

theorem blames_withOption (params : LineParams) (option : List Char) :
    Blames OfArgument (withOption params option) := by
  unfold withOption
  split
  · exact (blames_error _).mpr ⟨_, rfl⟩
  · split
    · exact (blames_level _ _).bind fun _ => blames_ok _
    · exact (blames_level _ _).bind fun _ => blames_ok _
    · exact (blames_flowOf _).bind fun _ => blames_ok _
    · exact (blames_error _).mpr ⟨_, rfl⟩

theorem blames_ofShape (baud : UInt32) (shape : List Char) :
    Blames OfArgument (ofShape baud shape) := by
  unfold ofShape
  split
  · split
    · exact (blames_error _).mpr ⟨_, rfl⟩
    · split
      · exact (blames_error _).mpr ⟨_, rfl⟩
      · split
        · exact (blames_error _).mpr ⟨_, rfl⟩
        · exact blames_ok _
  · exact (blames_error _).mpr ⟨_, rfl⟩

theorem blames_ofFields (baud : UInt32) (fields : List (List Char)) :
    Blames OfArgument (ofFields baud fields) := by
  apply (blames_ofShape baud _).bind
  intro shaped
  apply (Blames.foldlM blames_withOption _ shaped).bind
  intro params
  exact (blames_validate params).bind fun _ => blames_ok _

/-- A text that is not read is the caller's mistake. -/
theorem blames_parse (text : String) : Blames OfArgument (parse text) := by
  simp only [parse]
  split
  · exact (blames_error _).mpr ⟨_, rfl⟩
  · exact blames_ofFields _ _

theorem parse_eq_argument_iff {text : String} :
    (∃ cause, parse text = .error (.argument cause)) ↔
      ¬∃ spelling : Spelling, spelling.text = text := by
  constructor
  · rintro ⟨cause, hrefused⟩ ⟨spelling, rfl⟩
    rw [spelling.parse_text] at hrefused
    cases hrefused
  · intro hnone
    cases hparse : parse text with
    | ok params =>
        obtain ⟨spelling, hspelling, _⟩ := parse_eq_ok_iff.mp hparse
        exact absurd ⟨spelling, hspelling⟩ hnone
    | error error =>
        obtain ⟨cause, rfl⟩ := blames_parse text error hparse
        exact ⟨cause, rfl⟩

namespace Setting

inductive Key where
  | rts
  | dtr
  | flow
  deriving DecidableEq, Repr

def key : Setting → Key
  | rts _ => .rts
  | dtr _ => .dtr
  | flow _ => .flow

abbrev Key.Value : Key → Type
  | rts => Bool
  | dtr => Bool
  | flow => FlowControl

/-- What an option sets, if it has the key. -/
def value? : (key : Key) → Setting → Option key.Value
  | .rts => rts?
  | .dtr => dtr?
  | .flow => flow?

theorem value?_of_key {key : Key} {setting : Setting} (hkey : setting.key ≠ key) :
    setting.value? key = none := by
  cases key <;> cases setting <;> first | rfl | exact absurd rfl hkey

/-- What an option sets is read from the options of its key. -/
theorem filterMap_value? (key : Key) (settings : List Setting) :
    settings.filterMap (value? key) = (settings.filter (·.key = key)).filterMap (value? key) := by
  rw [List.filterMap_filter]
  congr 1
  funext setting
  by_cases hkey : setting.key = key
  · simp [hkey]
  · simp [hkey, value?_of_key hkey]

end Setting

namespace Spelling

/-- Only the order of options of one key matters. -/
theorem params_of_reordered (spelling : Spelling) {settings : List Setting}
    (hsame : ∀ key, settings.filter (·.key = key) = spelling.settings.filter (·.key = key)) :
    ({ spelling with settings } : Spelling).params = spelling.params := by
  have hread (key : Setting.Key) : settings.filterMap (Setting.value? key) =
      spelling.settings.filterMap (Setting.value? key) := by
    rw [Setting.filterMap_value?, hsame, ← Setting.filterMap_value?]
  have hrts : settings.filterMap Setting.rts? = spelling.settings.filterMap Setting.rts? :=
    hread .rts
  have hdtr : settings.filterMap Setting.dtr? = spelling.settings.filterMap Setting.dtr? :=
    hread .dtr
  have hflow : settings.filterMap Setting.flow? = spelling.settings.filterMap Setting.flow? :=
    hread .flow
  simp only [params, hrts, hdtr, hflow]

/-- Behind the first two fields there is nothing but options. -/
theorem exists_setting_of_mem (spelling : Spelling) {option : String}
    (hoption : option ∈ (Text.fields spelling.text).drop 2) :
    ∃ setting ∈ spelling.settings, setting.text = option := by
  rw [spelling.fields_text] at hoption
  exact List.mem_map.mp hoption

/-- No field is empty. -/
theorem ne_empty_of_mem_fields (spelling : Spelling) {field : String}
    (hfield : field ∈ spelling.fields) : field ≠ "" := by
  rcases List.mem_cons.mp hfield with rfl | hfield
  · rw [Ne, ← String.toList_inj, String.toList_ofList, Text.signed]
    split
    · exact List.cons_ne_nil _ _
    · exact spelling.digits_ne_nil
  · rcases List.mem_cons.mp hfield with rfl | hfield
    · rw [Ne, ← String.toList_inj, String.toList_ofList]
      exact List.cons_ne_nil _ _
    · obtain ⟨setting, _, rfl⟩ := List.mem_map.mp hfield
      cases setting with
      | rts level => cases level <;> decide
      | dtr level => cases level <;> decide
      | flow control => cases control <;> decide

theorem text_ne_append_slash (spelling : Spelling) (text : String) :
    spelling.text ≠ text ++ "/" := by
  intro htext
  have hfields := spelling.fields_text
  rw [htext, Text.fields_append_slash] at hfields
  have hempty : "" ∈ spelling.fields := by
    rw [← hfields]
    exact List.mem_append_right _ List.mem_cons_self
  exact spelling.ne_empty_of_mem_fields hempty rfl

end Spelling

/-- A text is read exactly if it is spelt, and every other text is the caller's
mistake: one with something else than an option among the options, or with a slash
at the end. -/
theorem accepts_spellings :
    (∀ text params, parse text = .ok params ↔
      ∃ spelling : Spelling, spelling.text = text ∧ spelling.params = params) ∧
    (∀ text, (∃ cause, parse text = .error (.argument cause)) ↔
      ¬∃ spelling : Spelling, spelling.text = text) ∧
    (∀ (spelling : Spelling) (settings : List Setting),
      (∀ key, settings.filter (·.key = key) = spelling.settings.filter (·.key = key)) →
      parse ({ spelling with settings } : Spelling).text = .ok spelling.params) ∧
    (∀ text, ∀ option ∈ (Text.fields text).drop 2, (∀ setting : Setting, setting.text ≠ option) →
      ∃ cause, parse text = .error (.argument cause)) ∧
    ∀ text, ∃ cause, parse (text ++ "/") = .error (.argument cause) := by
  refine ⟨fun _ _ => parse_eq_ok_iff, fun _ => parse_eq_argument_iff, ?_, ?_, ?_⟩
  · intro spelling settings hsame
    rw [Spelling.parse_text, spelling.params_of_reordered hsame]
  · intro text option hoption hnone
    apply parse_eq_argument_iff.mpr
    rintro ⟨spelling, rfl⟩
    obtain ⟨setting, _, hsetting⟩ := spelling.exists_setting_of_mem hoption
    exact hnone setting hsetting
  · intro text
    apply parse_eq_argument_iff.mpr
    rintro ⟨spelling, hspelling⟩
    exact spelling.text_ne_append_slash text hspelling

/-- Seven data bits, even parity, two stop bits and an option given twice. -/
def Spelling.repeating : Spelling where
  plus := true
  digits := ['0', '0', '1', '9', '2', '0', '0']
  dataBits := 7
  parity := .even
  upper := true
  stopBits := 2
  settings := [.rts true, .flow .hardware, .rts false, .dtr true]

/-- Signs, zeros and upper case make no difference, nor does moving options of
different keys past each other; an option that a later one overrides is still read. -/
theorem accepts_spellings_reordered :
    (∀ key, [Setting.dtr true, .rts true, .rts false, .flow .hardware].filter (·.key = key) =
      Spelling.repeating.settings.filter (·.key = key)) ∧
    parse "+0019200/7E2/dtr=1/rts=1/rts=0/flow=1" =
      .ok { baud := 19200, dataBits := 7, parity := .even, stopBits := 2, flow := .hardware,
            rts := some false, dtr := some true } ∧
    "rts=2" ∈ (Text.fields "9600/8n1/rts=2/rts=1").drop 2 ∧
    (∀ setting : Setting, setting.text ≠ "rts=2") ∧
    ∃ cause, parse "9600/8n1/rts=2/rts=1" = .error (.argument cause) := by
  have hsame : ∀ key, [Setting.dtr true, .rts true, .rts false, .flow .hardware].filter
      (·.key = key) = Spelling.repeating.settings.filter (·.key = key) := by
    intro key
    cases key <;> rfl
  have htext : ({ Spelling.repeating with
      settings := [.dtr true, .rts true, .rts false, .flow .hardware] } : Spelling).text =
        "+0019200/7E2/dtr=1/rts=1/rts=0/flow=1" := by decide
  have hparams : Spelling.repeating.params =
      { baud := 19200, dataBits := 7, parity := .even, stopBits := 2, flow := .hardware,
        rts := some false, dtr := some true } := by decide
  have hread := accepts_spellings.2.2.1 Spelling.repeating _ hsame
  rw [htext, hparams] at hread
  have hmember : "rts=2" ∈ (Text.fields "9600/8n1/rts=2/rts=1").drop 2 := by decide
  have hnone : ∀ setting : Setting, setting.text ≠ "rts=2" := by
    intro setting
    cases setting with
    | rts level => cases level <;> decide
    | dtr level => cases level <;> decide
    | flow control => cases control <;> decide
  exact ⟨hsame, hread, hmember, hnone, accepts_spellings.2.2.2.1 _ _ hmember hnone⟩

end LineParams

end InstrumentLink
