import InstrumentLink.Message.Pdu
import InstrumentLink.Proofs.Outcome

/-!
# The room of a message body

A message body is room of a fixed size with a mark behind the bytes in use.  An
operation that appends stores behind the mark first and moves the mark then, and
both only after it has checked that the bytes fit.  So the bytes in use grow by all
that is appended; or the whole body, mark and room, is what it was.
-/

namespace InstrumentLink.Pdu

open LinkM

variable {pdu : Pdu} {added more : List UInt8} {first next construction : LinkM Pdu Unit}

/-- The bytes in use end inside the room. -/
def Sound (pdu : Pdu) : Prop := pdu.length ≤ maxPduSize

theorem sound_empty : empty.Sound := Nat.zero_le _

@[simp]
theorem bytes_empty : empty.bytes = [] := List.take_zero

theorem length_bytes (hsound : pdu.Sound) : pdu.bytes.length = pdu.length := by
  rw [bytes, List.length_take, Vector.length_toList]
  exact Nat.min_eq_left hsound

/-- More than the room is never in use. -/
theorem length_bytes_le (pdu : Pdu) : pdu.bytes.length ≤ maxPduSize := by
  rw [bytes, List.length_take, Vector.length_toList]
  exact Nat.min_le_right _ _

@[simp]
theorem length_store (pdu : Pdu) (position : Nat) (added : List UInt8) :
    (pdu.store position added).length = pdu.length := by
  induction added generalizing pdu position with
  | nil => rfl
  | cons byte rest ih => exact ih _ _

theorem take_set_succ {list : List UInt8} {position : Nat} (hinside : position < list.length)
    (byte : UInt8) :
    (list.set position byte).take (position + 1) = list.take position ++ [byte] := by
  have hlength : (list.take position).length = position :=
    List.length_take_of_le (Nat.le_of_lt hinside)
  rw [List.take_set, List.take_add_one, List.getElem?_eq_getElem hinside, Option.toList_some,
    List.set_append_right _ _ (Nat.le_of_eq hlength), hlength, Nat.sub_self, List.set_cons_zero]

/-- What is stored inside the room follows what stood in front of it. -/
theorem take_store (pdu : Pdu) (position : Nat) (added : List UInt8)
    (hroom : position + added.length ≤ maxPduSize) :
    (pdu.store position added).data.toList.take (position + added.length) =
      pdu.data.toList.take position ++ added := by
  induction added generalizing pdu position with
  | nil => exact (List.append_nil _).symm
  | cons byte rest ih =>
      rw [List.length_cons] at hroom ⊢
      have hinside : position < pdu.data.toList.length := by
        rw [Vector.length_toList]
        omega
      have hset : (pdu.data.setIfInBounds position byte).toList =
          pdu.data.toList.set position byte := Array.toList_setIfInBounds
      rw [store, show position + (rest.length + 1) = position + 1 + rest.length by omega,
        ih _ _ (by omega), hset, take_set_succ hinside, List.append_assoc, List.singleton_append]

/-- Bytes that fit are in use once they are stored and the mark is moved. -/
theorem grown_of_store (hroom : pdu.length + added.length ≤ maxPduSize) :
    let stored := pdu.store pdu.length added
    let grown : Pdu := { stored with length := stored.length + added.length }
    grown.Sound ∧ grown.bytes = pdu.bytes ++ added := by
  intro stored grown
  have hlength : grown.length = pdu.length + added.length :=
    congrArg (· + added.length) (length_store pdu pdu.length added)
  constructor
  · rwa [Sound, hlength]
  · rw [bytes, hlength]
    exact take_store pdu pdu.length added hroom

/-- A byte is appended, or the body is full and stays as it is. -/
theorem push_leads (hsound : pdu.Sound) (byte : UInt8) :
    Leads (push byte) pdu
      (fun _ after => (pdu.bytes ++ [byte]).length ≤ maxPduSize ∧ after.Sound ∧
        after.bytes = pdu.bytes ++ [byte])
      (fun error after => maxPduSize < (pdu.bytes ++ [byte]).length ∧
        error = .argument .pduFull ∧ after = pdu) := by
  rw [List.length_append, length_bytes hsound, List.length_singleton]
  simp only [push, leads_bind, leads_get]
  split
  · next hfull => exact ⟨Nat.lt_succ_of_le hfull, rfl, rfl⟩
  · next hnot =>
      have hroom : pdu.length + [byte].length ≤ maxPduSize := Nat.lt_of_not_le hnot
      exact ⟨hroom, grown_of_store hroom⟩

/-- Bytes are all appended, or do not fit and the body stays as it is. -/
theorem extend_leads (hsound : pdu.Sound) (added : List UInt8) :
    Leads (extend added) pdu
      (fun _ after => (pdu.bytes ++ added).length ≤ maxPduSize ∧ after.Sound ∧
        after.bytes = pdu.bytes ++ added)
      (fun error after => maxPduSize < (pdu.bytes ++ added).length ∧
        error = .argument (.pduOverflow pdu.bytes.length added.length) ∧ after = pdu) := by
  rw [List.length_append, length_bytes hsound]
  simp only [extend, leads_bind, leads_get]
  split
  · next hlong => exact ⟨hlong, rfl, rfl⟩
  · next hnot =>
      have hroom : pdu.length + added.length ≤ maxPduSize := Nat.le_of_not_lt hnot
      exact ⟨hroom, grown_of_store hroom⟩

/-- On every body with room for them, the bytes are appended. -/
def Appends (construction : LinkM Pdu Unit) (added : List UInt8) : Prop :=
  ∀ pdu : Pdu, pdu.Sound → (pdu.bytes ++ added).length ≤ maxPduSize →
    Leads construction pdu (fun _ after => after.Sound ∧ after.bytes = pdu.bytes ++ added)
      fun _ _ => False

theorem appends_push (byte : UInt8) : Appends (push byte) [byte] := by
  intro pdu hsound hroom
  apply (push_leads hsound byte).mono
  · rintro _ after ⟨_, happended⟩
    exact happended
  · rintro _ _ ⟨hfull, _⟩
    exact Nat.not_lt_of_le hroom hfull

theorem appends_extend (added : List UInt8) : Appends (extend added) added := by
  intro pdu hsound hroom
  apply (extend_leads hsound added).mono
  · rintro _ after ⟨_, happended⟩
    exact happended
  · rintro _ _ ⟨hlong, _⟩
    exact Nat.not_lt_of_le hroom hlong

theorem appends_nothing : Appends (pure ()) [] := by
  intro pdu hsound _
  exact ⟨hsound, (List.append_nil _).symm⟩

theorem Appends.andThen (hfirst : Appends first added) (hnext : Appends next more) :
    Appends (do first; next) (added ++ more) := by
  intro pdu hsound hroom
  rw [← List.append_assoc] at hroom ⊢
  have hfits : (pdu.bytes ++ added).length ≤ maxPduSize := by
    rw [List.length_append] at hroom
    omega
  rw [leads_bind]
  apply (hfirst pdu hsound hfits).mono
  · rintro _ between ⟨hbetween, hbytes⟩
    rw [← hbytes] at hroom ⊢
    exact hnext between hbetween hroom
  · intro _ _ hfalse
    exact hfalse

/-- What fits a frame is built. -/
theorem exists_build (h : Appends construction added) (hroom : added.length ≤ maxPduSize) :
    ∃ pdu, build construction = .ok pdu ∧ pdu.Sound ∧ pdu.bytes = added := by
  have hbuilt := h empty sound_empty
  rw [bytes_empty, List.nil_append] at hbuilt
  obtain ⟨_, pdu, houtcome, hpdu⟩ := (hbuilt hroom).exists_ok
  exact ⟨pdu, by rw [build, houtcome]; rfl, hpdu⟩

end InstrumentLink.Pdu
