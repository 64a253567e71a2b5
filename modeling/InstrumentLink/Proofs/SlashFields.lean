/-!
# Fields between slashes

Line parameters and connections are written as fields with slashes in between.
The fields of a text are settled by how they are put together: there is at least
one of them, and none of them holds a slash.
-/

namespace InstrumentLink.Text

/-- The texts between the slashes of a text, in order. -/
def fields (text : String) : List String := (text.toList.splitOn '/').map String.ofList

theorem splitOn_eq_fields (text : String) :
    text.toList.splitOn '/' = (fields text).map String.toList := by
  simp [fields, Function.comp_def]

theorem slash_not_mem_of_mem_splitOn {chars field : List Char}
    (hfield : field ∈ chars.splitOn '/') : '/' ∉ field := by
  induction chars generalizing field with
  | nil => simp_all
  | cons first rest ih =>
      obtain ⟨front, more, hrest⟩ := List.exists_cons_of_ne_nil (List.splitOn_ne_nil '/' rest)
      rw [List.splitOn_cons_eq_if_modifyHead, hrest] at hfield
      rw [hrest] at ih
      split at hfield
      · rcases List.mem_cons.mp hfield with rfl | hlater
        · exact List.not_mem_nil
        · exact ih hlater
      · next hfirst =>
          rcases List.mem_cons.mp hfield with rfl | hlater
          · have hslash : '/' ≠ first := fun hsame => hfirst (by simp [← hsame])
            exact List.not_mem_cons_of_ne_of_not_mem hslash (ih List.mem_cons_self)
          · exact ih (List.mem_cons_of_mem _ hlater)

/-- The fields of a text are the ones that it is put together from. -/
theorem fields_eq_iff {text : String} {parts : List String} :
    fields text = parts ↔
      parts ≠ [] ∧ (∀ part ∈ parts, '/' ∉ part.toList) ∧ "/".intercalate parts = text := by
  have hjoined : ("/".intercalate parts).toList = ['/'].intercalate (parts.map String.toList) :=
    String.toList_intercalate
  constructor
  · rintro rfl
    refine ⟨?_, ?_, ?_⟩
    · simp [fields, List.splitOn_ne_nil]
    · intro part hpart
      obtain ⟨field, hfield, rfl⟩ := List.mem_map.mp hpart
      rw [String.toList_ofList]
      exact slash_not_mem_of_mem_splitOn hfield
    · rw [← String.toList_inj, hjoined, ← splitOn_eq_fields]
      exact List.intercalate_splitOn '/'
  · rintro ⟨hparts, hslashes, rfl⟩
    have hnone : ∀ field ∈ parts.map String.toList, '/' ∉ field := by
      intro field hfield
      obtain ⟨part, hpart, rfl⟩ := List.mem_map.mp hfield
      exact hslashes part hpart
    rw [fields, hjoined, List.splitOn_intercalate '/' hnone (by simpa using hparts)]
    simp [Function.comp_def]

/-- Putting the fields of a text together gives the text back. -/
theorem intercalate_fields (text : String) : "/".intercalate (fields text) = text :=
  (fields_eq_iff.mp rfl).2.2

/-- Every field but the first has a slash in front. -/
theorem intercalate_cons (first : List Char) (rest : List (List Char)) :
    ['/'].intercalate (first :: rest) = first ++ rest.flatMap ('/' :: ·) := by
  induction rest generalizing first with
  | nil => simp
  | cons second more ih => rw [List.intercalate_cons_cons, ih]; simp

/-- A slash at the end has an empty field behind it. -/
theorem fields_append_slash (text : String) : fields (text ++ "/") = fields text ++ [""] := by
  rw [fields, String.toList_append]
  exact (congrArg (List.map String.ofList) (List.splitOn_append_cons_self text.toList [])).trans
    List.map_append

end InstrumentLink.Text
