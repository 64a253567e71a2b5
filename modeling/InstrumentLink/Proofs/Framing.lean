import InstrumentLink.Frame.Basic

/-!
# Framing and its inverse

A frame that was encoded passes its own check, and taking it apart gives back
what it was made from.
-/

namespace InstrumentLink.Frame

/-- Taking a frame apart checks its trailer and keeps what is before it. -/
theorem decode_append_trailer (address first low high : UInt8) (rest : List UInt8) :
    decode (address :: first :: rest ++ [low, high]) =
      (verify (address :: first :: rest) low high).map fun _ => (address, first :: rest) := by
  have hlength : (address :: first :: rest ++ [low, high]).length - 2 =
      (address :: first :: rest).length := by simp
  simp only [decode, hlength, List.take_left, List.drop_left]
  cases verify (address :: first :: rest) low high <;> rfl

/-- Bytes that are too few for a frame are refused as such. -/
theorem decode_of_short {frame : List UInt8} (hshort : frame.length < 4) :
    decode frame = .error (.protocol (.frameTooShort frame.length)) := by
  match frame with
  | [] => rfl
  | [_] => rfl
  | [_, _] => rfl
  | [_, _, _] => rfl
  | _ :: _ :: _ :: _ :: rest =>
      simp only [List.length_cons] at hshort
      omega

/-- Bytes that could be a frame have all the parts of one. -/
theorem exists_parts {frame : List UInt8} (hlong : 4 ≤ frame.length) :
    ∃ address first rest low high, frame = address :: first :: rest ++ [low, high] := by
  match frame with
  | address :: first :: rest =>
      simp only [List.length_cons] at hlong
      have htwo : (rest.drop (rest.length - 2)).length = 2 := by
        rw [List.length_drop]
        omega
      obtain ⟨low, high, htrailer⟩ : ∃ low high, rest.drop (rest.length - 2) = [low, high] := by
        match rest.drop (rest.length - 2), htwo with
        | [low, high], _ => exact ⟨low, high, rfl⟩
      refine ⟨address, first, rest.take (rest.length - 2), low, high, ?_⟩
      rw [← htrailer, List.cons_append, List.cons_append, List.take_append_drop]
  | [_] =>
      rw [List.length_singleton] at hlong
      omega
  | [] =>
      rw [List.length_nil] at hlong
      omega

/-- The two bytes of a word recombine to the word. -/
theorem word_of_bytes (word : UInt16) :
    word.toUInt8.toUInt16 ||| ((word >>> 8).toUInt8.toUInt16 <<< 8) = word := by
  apply UInt16.toNat_inj.mp
  have hword := word.toNat_lt
  have hhigh : word.toNat / 256 < 256 := by omega
  have hlow : word.toNat % 256 < 2 ^ 8 := Nat.mod_lt _ (by decide)
  have hor := Nat.shiftLeft_add_eq_or_of_lt hlow (word.toNat / 256)
  have hshift : (word.toNat / 256) <<< 8 = word.toNat / 256 * 2 ^ 8 := Nat.shiftLeft_eq _ _
  have hfits : (word.toNat / 256) <<< 8 < 65536 := by omega
  simp only [UInt16.toNat_or, UInt8.toNat_toUInt16, UInt16.toNat_toUInt8,
    UInt16.toNat_shiftLeft, UInt16.toNat_shiftRight, UInt16.reduceToNat, Nat.reduceMod,
    Nat.shiftRight_eq_div_pow, Nat.reducePow]
  rw [Nat.mod_eq_of_lt hhigh, Nat.mod_eq_of_lt hfits, Nat.or_comm, ← hor]
  omega

theorem verify_trailer (body : List UInt8) :
    verify body (checksum body).toUInt8 (checksum body >>> 8).toUInt8 = .ok () := by
  simp only [verify, word_of_bytes]
  exact if_neg fun h => h rfl

/-- A message body that is not empty and not too long is framed. -/
theorem encode_of_fits (address : UInt8) {pdu : List UInt8} (hpdu : 1 ≤ pdu.length)
    (hfits : pdu.length ≤ maxPduSize) :
    encode address pdu = .ok (address :: pdu ++ trailer (address :: pdu)) := by
  have hbounds : ¬(pdu.length = 0 ∨ maxPduSize < pdu.length) := by omega
  rw [encode, if_neg hbounds]

/-- A message body that is framed has a first byte, and the frame ends in its
checksum. -/
theorem eq_of_encode {address : UInt8} {pdu frame : List UInt8}
    (hencode : encode address pdu = .ok frame) :
    pdu ≠ [] ∧ frame = address :: pdu ++ trailer (address :: pdu) := by
  rw [encode] at hencode
  split at hencode
  · cases hencode
  · next hlength =>
      cases hencode
      constructor
      · intro hempty
        exact hlength (.inl (List.length_eq_zero_iff.mpr hempty))
      · rfl

end InstrumentLink.Frame
