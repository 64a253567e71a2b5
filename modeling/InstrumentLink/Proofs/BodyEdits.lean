import InstrumentLink.Proofs.BodyRoom
import InstrumentLink.Proofs.WordBytes
import Mathlib.Data.List.DropRight

/-!
# Changes to a message body

A message body in its room behaves like a bounded list: whatever is done to it, the
bytes in use and the answers are those of a list that takes a change as a whole or
not at all.  What it holds after any number of changes is told by those that were
made: the bytes of all changes since the last one that started the body anew.
-/

namespace InstrumentLink.Pdu

open LinkM

namespace Edit

def added : Edit → List UInt8
  | clear => []
  | replace bytes => bytes
  | push byte => [byte]
  | pushWord word => (bigEndian word.toNat).map UInt8.ofNat
  | extend bytes => bytes

def startsAnew : Edit → Bool
  | clear | replace _ => true
  | push _ | pushWord _ | extend _ => false

/-- What a change leaves standing in front of its own bytes. -/
def kept (change : Edit) (held : List UInt8) : List UInt8 :=
  if change.startsAnew then [] else held

/-- What a change comes to, if there is room for it. -/
def onto (change : Edit) (held : List UInt8) : List UInt8 := change.kept held ++ change.added

/-- What is said about a change for which there is no room. -/
def refusal (change : Edit) (held : List UInt8) : ArgumentCause :=
  match change with
  | push _ => .pduFull
  | _ => .pduOverflow (change.kept held).length change.added.length

/-- A bounded list takes a change as a whole, or refuses it and stays as it is. -/
def apply (change : Edit) (held : List UInt8) : Except LinkError Unit × List UInt8 :=
  if (change.onto held).length ≤ maxPduSize then (.ok (), change.onto held)
  else (.error (.argument (change.refusal held)), held)

def applyAll (held : List UInt8) : List Edit → List (Except LinkError Unit × List UInt8)
  | [] => []
  | change :: rest => change.apply held :: applyAll (change.apply held).2 rest

/-- What a body holds that started with `initial`, by the changes that were made to it: the
bytes of the last one that started it anew, and of all changes after that one. -/
def content (initial : List UInt8) (made : List Edit) : List UInt8 :=
  (((made.rdropWhile fun change => !change.startsAnew).getLast?.map added).getD initial) ++
    (made.rtakeWhile fun change => !change.startsAnew).flatMap added

theorem added_pushWord (word : UInt16) : (pushWord word).added = wordBytes word := by
  rw [added, ← map_toNat_wordBytes, List.map_map]
  exact List.map_id'' (fun byte => UInt8.ofNat_toNat) _

theorem content_concat (initial : List UInt8) (made : List Edit) (change : Edit) :
    content initial (made ++ [change]) = change.onto (content initial made) := by
  rw [content, onto, kept]
  cases hanew : change.startsAnew with
  | true =>
      rw [List.rdropWhile_concat_neg _ _ _ (by simp [hanew]),
        List.rtakeWhile_concat_neg _ _ _ (by simp [hanew]), List.getLast?_concat]
      simp
  | false =>
      rw [List.rdropWhile_concat_pos _ _ _ (by simp [hanew]),
        List.rtakeWhile_concat_pos _ _ _ (by simp [hanew]), List.flatMap_append, content,
        ← List.append_assoc]
      simp

end Edit

variable {pdu : Pdu}

theorem ofBytes_cases (bytes : List UInt8) :
    (∃ pdu, ofBytes bytes = .ok pdu ∧ bytes.length ≤ maxPduSize ∧ pdu.Sound ∧ pdu.bytes = bytes) ∨
      (ofBytes bytes = .error (.argument (.pduOverflow 0 bytes.length)) ∧
        maxPduSize < bytes.length) := by
  rcases (extend_leads sound_empty bytes).exists_outcome with
    ⟨_, pdu, houtcome, hroom, hpdu⟩ | ⟨error, pdu, houtcome, hlong, rfl, _⟩
  · exact .inl ⟨pdu, by rw [ofBytes, build, houtcome]; rfl, hroom, hpdu⟩
  · exact .inr ⟨by rw [ofBytes, build, houtcome]; rfl, hlong⟩

/-- All or nothing: a change is made as a whole if it fits, and leaves the body, mark and room,
as it was if it does not. -/
theorem edit_leads (hsound : pdu.Sound) (change : Edit) :
    Leads (edit change) pdu
      (fun _ after => (change.onto pdu.bytes).length ≤ maxPduSize ∧ after.Sound ∧
        after.bytes = change.onto pdu.bytes)
      (fun error after => maxPduSize < (change.onto pdu.bytes).length ∧
        error = .argument (change.refusal pdu.bytes) ∧ after = pdu) := by
  cases change with
  | clear => exact ⟨Nat.zero_le _, sound_empty, bytes_empty⟩
  | replace bytes =>
      rw [edit, leads_bind]
      rcases ofBytes_cases bytes with ⟨built, hbuilt, hroom, hsound, hbytes⟩ | ⟨hrefused, hlong⟩
      · rw [hbuilt]
        exact ⟨hroom, hsound, hbytes⟩
      · rw [hrefused]
        exact ⟨hlong, rfl, rfl⟩
  | push byte => exact push_leads hsound byte
  | pushWord word =>
      have hadded := Edit.added_pushWord word
      have honto : (Edit.pushWord word).onto pdu.bytes = pdu.bytes ++ wordBytes word :=
        congrArg (pdu.bytes ++ ·) hadded
      have hrefusal : (Edit.pushWord word).refusal pdu.bytes =
          .pduOverflow pdu.bytes.length (wordBytes word).length := by
        rw [← hadded]
        rfl
      rw [honto, hrefusal]
      exact extend_leads hsound (wordBytes word)
  | extend bytes => exact extend_leads hsound bytes

/-! ### One change after the other -/

def answer (pdu : Pdu) (change : Edit) : Except LinkError Unit := ((edit change).outcome pdu).1

def after (pdu : Pdu) (change : Edit) : Pdu := ((edit change).outcome pdu).2

def left (pdu : Pdu) (changes : List Edit) : Pdu :=
  ((pdu.editAll changes).getLast?.map Prod.snd).getD pdu

/-- The changes that are made, without those that are refused. -/
def made (pdu : Pdu) (changes : List Edit) : List Edit :=
  ((changes.zip (pdu.editAll changes)).filter fun step => step.2.1.isOk).map Prod.fst

theorem edit_cases (hsound : pdu.Sound) (change : Edit) :
    ((change.onto pdu.bytes).length ≤ maxPduSize ∧ pdu.answer change = .ok () ∧
        (pdu.after change).Sound ∧ (pdu.after change).bytes = change.onto pdu.bytes) ∨
      (maxPduSize < (change.onto pdu.bytes).length ∧
        pdu.answer change = .error (.argument (change.refusal pdu.bytes)) ∧
          pdu.after change = pdu) := by
  rw [answer, after]
  rcases (edit_leads hsound change).exists_outcome with
    ⟨_, last, houtcome, hroom, hlast⟩ | ⟨_, last, houtcome, hlong, rfl, rfl⟩
  · exact .inl ⟨hroom, by rw [houtcome], by rwa [houtcome]⟩
  · exact .inr ⟨hlong, by rw [houtcome], by rw [houtcome]⟩

theorem sound_after (hsound : pdu.Sound) (change : Edit) : (pdu.after change).Sound := by
  rcases edit_cases hsound change with ⟨_, _, hafter, _⟩ | ⟨_, _, hsame⟩
  · exact hafter
  · rwa [hsame]

/-- A change of the body in its room is one of the bounded list. -/
theorem edit_refines (hsound : pdu.Sound) (change : Edit) :
    (pdu.answer change, (pdu.after change).bytes) = change.apply pdu.bytes := by
  rw [Edit.apply]
  rcases edit_cases hsound change with ⟨hroom, hdone, _, hbytes⟩ | ⟨hlong, hrefused, hsame⟩
  · rw [if_pos hroom, hdone, hbytes]
  · rw [if_neg (Nat.not_le_of_lt hlong), hrefused, hsame]

theorem editAll_cons (pdu : Pdu) (change : Edit) (rest : List Edit) :
    pdu.editAll (change :: rest) =
      (pdu.answer change, pdu.after change) :: (pdu.after change).editAll rest := rfl

/-- The body in its room answers as the bounded list does, and shows the same bytes. -/
theorem editAll_refines (hsound : pdu.Sound) (changes : List Edit) :
    (pdu.editAll changes).map (fun step => (step.1, step.2.bytes)) =
      Edit.applyAll pdu.bytes changes := by
  induction changes generalizing pdu with
  | nil => rfl
  | cons change rest ih =>
      rw [editAll_cons, List.map_cons, edit_refines hsound, ih (sound_after hsound change),
        Edit.applyAll, ← edit_refines hsound]

theorem left_cons (pdu : Pdu) (change : Edit) (rest : List Edit) :
    pdu.left (change :: rest) = (pdu.after change).left rest := by
  rw [left, left, editAll_cons, List.getLast?_cons]
  cases ((pdu.after change).editAll rest).getLast? <;> rfl

theorem sound_left (hsound : pdu.Sound) (changes : List Edit) : (pdu.left changes).Sound := by
  induction changes generalizing pdu with
  | nil => exact hsound
  | cons change rest ih =>
      rw [left_cons]
      exact ih (sound_after hsound change)

/-- The last of some changes is made to the body that the others leave. -/
theorem editAll_concat (pdu : Pdu) (changes : List Edit) (change : Edit) :
    pdu.editAll (changes ++ [change]) =
      pdu.editAll changes ++
        [((pdu.left changes).answer change, (pdu.left changes).after change)] := by
  induction changes generalizing pdu with
  | nil => exact editAll_cons pdu change []
  | cons first rest ih =>
      rw [List.cons_append, editAll_cons, editAll_cons, ih, left_cons, List.cons_append]

theorem left_concat (pdu : Pdu) (changes : List Edit) (change : Edit) :
    pdu.left (changes ++ [change]) = (pdu.left changes).after change := by
  rw [left, editAll_concat, List.getLast?_concat]
  rfl

@[simp]
theorem length_editAll (pdu : Pdu) (changes : List Edit) :
    (pdu.editAll changes).length = changes.length := by
  induction changes generalizing pdu with
  | nil => rfl
  | cons change rest ih => rw [editAll_cons, List.length_cons, ih, List.length_cons]

theorem made_concat (pdu : Pdu) (changes : List Edit) (change : Edit) :
    pdu.made (changes ++ [change]) =
      pdu.made changes ++ if ((pdu.left changes).answer change).isOk then [change] else [] := by
  rw [made, editAll_concat, List.zip_append (length_editAll pdu changes).symm, List.filter_append,
    List.map_append, made]
  congr 1
  cases h : ((pdu.left changes).answer change).isOk <;> simp [h]

/-- The induction is on the changes from the last one back: what they leave is told by those
that were made. -/
theorem bytes_left (hsound : pdu.Sound) (changes : List Edit) :
    (pdu.left changes).bytes = Edit.content pdu.bytes (pdu.made changes) := by
  induction changes using List.reverseRecOn with
  | nil => exact (List.append_nil _).symm
  | append_singleton changes change ih =>
      rw [left_concat, made_concat]
      rcases edit_cases (sound_left hsound changes) change with
        ⟨_, hdone, _, hbytes⟩ | ⟨_, hrefused, hsame⟩
      · rw [hbytes, hdone, ih]
        exact (Edit.content_concat pdu.bytes (pdu.made changes) change).symm
      · rw [hsame, hrefused, ih]
        exact congrArg (Edit.content pdu.bytes) (List.append_nil _).symm

/-- However a message body is changed, it answers and shows the bytes of a bounded list: those of
the changes that were made since it was last started anew, with those of a word in order of
significance.  Its mark stands behind them and never outside the room.  The next change is made
exactly if its bytes still fit; if they do not, it is refused, and mark and room stay as they
are. -/
theorem edits_all_or_nothing (changes : List Edit) :
    let body := empty.left changes
    (empty.editAll changes).map (fun step => (step.1, step.2.bytes)) = Edit.applyAll [] changes ∧
      body.bytes = Edit.content [] (empty.made changes) ∧
      body.length = body.bytes.length ∧ body.length ≤ 253 ∧
      ∀ change : Edit, ∃ answer next,
        empty.editAll (changes ++ [change]) = empty.editAll changes ++ [(answer, next)] ∧
          (((change.onto body.bytes).length ≤ 253 ∧ answer = .ok () ∧
              next.bytes = change.onto body.bytes) ∨
            (253 < (change.onto body.bytes).length ∧
              answer = .error (.argument (change.refusal body.bytes)) ∧ next = body)) := by
  intro body
  have hsound : body.Sound := sound_left sound_empty changes
  have hrefines := editAll_refines sound_empty changes
  have hbytes := bytes_left sound_empty changes
  rw [bytes_empty] at hrefines hbytes
  refine ⟨hrefines, hbytes, (length_bytes hsound).symm, hsound, fun change =>
    ⟨_, _, editAll_concat empty changes change, ?_⟩⟩
  rcases edit_cases hsound change with ⟨hroom, hdone, _, hmade⟩ | hrefused
  · exact .inl ⟨hroom, hdone, hmade⟩
  · exact .inr hrefused

/-- With one byte left, a word is refused and a byte is not. -/
example :
    (editAll { empty with length := 252 } [.pushWord 0x1234, .push 7, .extend [], .push 8]).map
        (fun step => (step.1.isOk, step.2.bytes.length)) =
      [(false, 252), (true, 253), (true, 253), (false, 253)] := by
  decide +kernel

end InstrumentLink.Pdu
