import InstrumentLink.Text.Numeral
import InstrumentLink.Text.Quoted
import Mathlib.Data.List.Basic

/-!
# Quoted text is readable

Between its quotes a text is written so that it can be read back: no escape is the
beginning of another one, and none begins with a quote.  So a quoted text ends where
it should, and a bracketed list of them says what its items are, whatever characters
they hold.
-/

namespace InstrumentLink.Text

theorem digitValue?_digitChar : ∀ digit < 16, digitValue? digit.digitChar = some digit := by
  decide

/-- A numeral stands for the number that it was written for. -/
theorem inBase?_toDigits {base : Nat} (hlow : 1 < base) (hhigh : base ≤ 16) (n : Nat) :
    inBase? base (Nat.toDigits base n) = some n := by
  rw [inBase?, if_neg Nat.toDigits_ne_nil]
  induction n using Nat.strongRecOn with
  | ind n ih =>
      rw [Nat.toDigits_eq_if hlow]
      split
      · next hsmall => simp [digitValue?_digitChar n (by omega), hsmall]
      · next hlarge =>
          have hless : n / base < n := Nat.div_lt_self (by omega) hlow
          have hdigit : n % base < base := Nat.mod_lt n (by omega)
          rw [List.foldlM_append, ih _ hless]
          simp [digitValue?_digitChar _ (Nat.lt_of_lt_of_le hdigit hhigh), hdigit,
            Nat.div_add_mod]

theorem toDigits_sixteen_inj {m n : Nat} (hsame : Nat.toDigits 16 m = Nat.toDigits 16 n) :
    m = n := by
  have hread : ∀ number, inBase? 16 (Nat.toDigits 16 number) = some number :=
    inBase?_toDigits (by decide) (by decide)
  have hm := hread m
  rw [hsame, hread] at hm
  exact (Option.some.inj hm).symm

theorem mem_toDigits_sixteen {c : Char} {n : Nat} (hdigit : c ∈ Nat.toDigits 16 n) :
    ∃ digit < 16, c = digit.digitChar := by
  induction n using Nat.strongRecOn with
  | ind n ih =>
      rw [Nat.toDigits_eq_if (by decide)] at hdigit
      split at hdigit
      · next hsmall => exact ⟨n, hsmall, List.mem_singleton.mp hdigit⟩
      · next hlarge =>
          rcases List.mem_append.mp hdigit with hfront | hlast
          · exact ih (n / 16) (by omega) hfront
          · exact ⟨n % 16, Nat.mod_lt n (by decide), List.mem_singleton.mp hlast⟩

/-- The characters that have an escape of their own, and the letters that stand for
them. -/
def letterEscapes : List (Char × Char) :=
  [('\"', '\"'), ('\\', '\\'), ('\n', 'n'), ('\r', 'r'), ('\t', 't'), ('\x00', '0')]

/-- How a character is written: as it is, by a letter, or by its code point. -/
inductive Escaped (c : Char) : List Char → Prop
  | plain (hquote : c ≠ '\"') (hbackslash : c ≠ '\\') : Escaped c [c]
  | letter {letter : Char} (hletter : (c, letter) ∈ letterEscapes) : Escaped c ['\\', letter]
  | codePoint : Escaped c ('\\' :: 'u' :: '\x7b' :: (Nat.toDigits 16 c.toNat ++ ['\x7d']))

theorem escaped_escape (c : Char) : Escaped c (escape c) := by
  unfold escape
  split
  · next hquote => exact .letter (by rw [hquote]; decide)
  · next hquote =>
      split
      · next hbackslash => exact .letter (by rw [hbackslash]; decide)
      · next hbackslash =>
          split
          · next hc => exact .letter (by rw [hc]; decide)
          · split
            · next hc => exact .letter (by rw [hc]; decide)
            · split
              · next hc => exact .letter (by rw [hc]; decide)
              · split
                · next hc => exact .letter (by rw [hc]; decide)
                · split
                  · exact .plain hquote hbackslash
                  · exact .codePoint

theorem letterEscapes_inj : ∀ first ∈ letterEscapes, ∀ second ∈ letterEscapes,
    first.2 = second.2 → first.1 = second.1 := by
  decide

theorem letter_ne : ∀ entry ∈ letterEscapes, entry.2 ≠ 'u' := by
  decide

theorem brace_not_mem_toDigits (n : Nat) : '\x7d' ∉ Nat.toDigits 16 n := by
  intro hbrace
  obtain ⟨digit, hdigit, hsame⟩ := mem_toDigits_sixteen hbrace
  exact (by decide : ∀ digit < 16, '\x7d' ≠ Nat.digitChar digit) digit hdigit hsame

variable {c d : Char} {front other rest more : List Char}

/-- Nothing that is written for a character begins with a quote. -/
theorem Escaped.head?_ne (hescaped : Escaped c front) : (front ++ rest).head? ≠ some '\"' := by
  cases hescaped with
  | plain hquote _ => simpa using hquote
  | letter _ => simp
  | codePoint => simp

/-- What is written for a character says where it ends and which character it is. -/
theorem Escaped.unique (hc : Escaped c front) (hd : Escaped d other)
    (hsame : front ++ rest = other ++ more) : c = d ∧ rest = more := by
  cases hc with
  | plain _ hbackslash =>
      cases hd with
      | plain _ _ => exact List.cons.inj hsame
      | letter _ => exact absurd (List.cons.inj hsame).1 hbackslash
      | codePoint => exact absurd (List.cons.inj hsame).1 hbackslash
  | letter hletter =>
      cases hd with
      | plain _ hbackslash => exact absurd (List.cons.inj hsame).1.symm hbackslash
      | letter hother =>
          obtain ⟨hletters, hrest⟩ := List.cons.inj (List.cons.inj hsame).2
          exact ⟨letterEscapes_inj _ hletter _ hother hletters, hrest⟩
      | codePoint =>
          exact absurd (List.cons.inj (List.cons.inj hsame).2).1 (letter_ne _ hletter)
  | codePoint =>
      cases hd with
      | plain _ hbackslash => exact absurd (List.cons.inj hsame).1.symm hbackslash
      | letter hother =>
          exact absurd (List.cons.inj (List.cons.inj hsame).2).1.symm (letter_ne _ hother)
      | codePoint =>
          simp only [List.cons_append, List.append_assoc, List.nil_append, List.cons.injEq,
            true_and] at hsame
          have hdigits := congrArg (List.splitOn '\x7d') hsame
          rw [List.splitOn_append_cons_self_of_not_mem (brace_not_mem_toDigits _),
            List.splitOn_append_cons_self_of_not_mem (brace_not_mem_toDigits _)] at hdigits
          obtain rfl := Char.toNat_inj.mp (toDigits_sixteen_inj (List.cons.inj hdigits).1)
          exact ⟨rfl, (List.cons.inj (List.append_cancel_left hsame)).2⟩

theorem flatMap_escape_append_inj {cs ds : List Char}
    (hsame : cs.flatMap escape ++ '\"' :: rest = ds.flatMap escape ++ '\"' :: more) :
    cs = ds ∧ rest = more := by
  induction cs generalizing ds with
  | nil =>
      cases ds with
      | nil => exact ⟨rfl, (List.cons.inj hsame).2⟩
      | cons d ds =>
          rw [List.flatMap_cons, List.append_assoc] at hsame
          exact absurd (congrArg List.head? hsame).symm (escaped_escape d).head?_ne
  | cons c cs ih =>
      rw [List.flatMap_cons, List.append_assoc] at hsame
      cases ds with
      | nil => exact absurd (congrArg List.head? hsame) (escaped_escape c).head?_ne
      | cons d ds =>
          rw [List.flatMap_cons, List.append_assoc] at hsame
          obtain ⟨rfl, hrest⟩ := (escaped_escape c).unique (escaped_escape d) hsame
          obtain ⟨rfl, hmore⟩ := ih hrest
          exact ⟨rfl, hmore⟩

theorem toList_quote (text : String) :
    (quote text).toList ++ rest = '\"' :: (text.toList.flatMap escape ++ '\"' :: rest) := by
  simp [quote]

/-- A quoted text says where it ends and which text it is. -/
theorem quote_append_inj {text another : String}
    (hsame : (quote text).toList ++ rest = (quote another).toList ++ more) :
    text = another ∧ rest = more := by
  rw [toList_quote, toList_quote] at hsame
  obtain ⟨htext, hrest⟩ := flatMap_escape_append_inj (List.cons.inj hsame).2
  exact ⟨String.toList_inj.mp htext, hrest⟩

def items : List String → List Char
  | [] => [']']
  | [text] => (quote text).toList ++ [']']
  | text :: second :: texts => (quote text).toList ++ ',' :: ' ' :: items (second :: texts)

theorem toList_quoteList (texts : List String) : (quoteList texts).toList = '[' :: items texts := by
  have hitems : (", ".intercalate (texts.map quote)).toList ++ [']'] = items texts := by
    induction texts with
    | nil => rfl
    | cons text texts ih =>
        cases texts with
        | nil => simp [items]
        | cons second texts =>
            rw [items, ← ih]
            simp [String.intercalate_cons_cons]
  rw [← hitems]
  simp [quoteList]

theorem items_cons (text : String) (texts : List String) :
    items (text :: texts) =
      (quote text).toList ++ if texts = [] then [']'] else ',' :: ' ' :: items texts := by
  cases texts with
  | nil => rfl
  | cons second texts => rfl

theorem items_inj {texts others : List String} (hsame : items texts = items others) :
    texts = others := by
  induction texts generalizing others with
  | nil =>
      cases others with
      | nil => rfl
      | cons another others =>
          rw [items_cons, toList_quote] at hsame
          exact absurd (List.cons.inj hsame).1 (by decide)
  | cons text texts ih =>
      cases others with
      | nil =>
          rw [items_cons, toList_quote] at hsame
          exact absurd (List.cons.inj hsame).1 (by decide)
      | cons another others =>
          rw [items_cons, items_cons] at hsame
          obtain ⟨rfl, hrest⟩ := quote_append_inj hsame
          split at hrest
          · split at hrest
            · next hnone hnoOther => rw [hnone, hnoOther]
            · exact absurd (List.cons.inj hrest).1 (by decide)
          · split at hrest
            · exact absurd (List.cons.inj hrest).1 (by decide)
            · rw [ih (List.cons.inj (List.cons.inj hrest).2).2]

/-- A bracketed list of quoted texts says which texts it holds, and in which order. -/
theorem quoteList_injective : Function.Injective quoteList := by
  intro texts others hsame
  have hlist := congrArg String.toList hsame
  rw [toList_quoteList, toList_quoteList] at hlist
  exact items_inj (List.cons.inj hlist).2

end InstrumentLink.Text
