import InstrumentLink.Proofs.Framing
import InstrumentLink.Proofs.WordBytes
import Mathlib.Data.List.Basic

/-!
# Frames and what they are made from

Making a frame and taking one apart are inverse to each other.  The trailer
leaves no choice: of all pairs of bytes only one passes the check behind a given
body, and it is the one that is appended.  So the byte sequences that can be
taken apart are exactly the frames that can be made, as long as they have the
length of one.
-/

namespace InstrumentLink.Frame

variable {address : UInt8} {pdu frame : List UInt8}

/-- The word that a trailer holds is the checksum of its body only if the trailer
is the one that is appended to it. -/
theorem checksum_eq_iff (body : List UInt8) (low high : UInt8) :
    checksum body = low.toUInt16 ||| (high.toUInt16 <<< 8) ↔ [low, high] = trailer body := by
  constructor
  · intro hsame
    have hword : Pdu.wordBytes (checksum body) = [high, low] := by
      rw [hsame, UInt16.or_comm]
      exact Pdu.wordBytes_wordOf high low
    simp only [Pdu.wordBytes, List.cons.injEq, and_true] at hword
    rw [trailer, hword.1, hword.2]
  · intro hsame
    simp only [trailer, List.cons.injEq, and_true] at hsame
    rw [hsame.1, hsame.2, word_of_bytes]

/-- A trailer is either the one of its body or refused. -/
theorem verify_of_ne_trailer {body : List UInt8} {low high : UInt8}
    (hother : [low, high] ≠ trailer body) :
    verify body low high =
      .error (.protocol (.checksum (checksum body) (low.toUInt16 ||| (high.toUInt16 <<< 8)))) :=
  if_pos (mt (checksum_eq_iff body low high).mp hother)

theorem encode_eq_ok_iff :
    encode address pdu = .ok frame ↔
      (1 ≤ pdu.length ∧ pdu.length ≤ maxPduSize) ∧
        frame = address :: pdu ++ trailer (address :: pdu) := by
  constructor
  · intro hencode
    refine ⟨?_, (eq_of_encode hencode).2⟩
    by_contra hbounds
    rw [encode, if_pos (by omega)] at hencode
    cases hencode
  · rintro ⟨⟨hpdu, hfits⟩, rfl⟩
    exact encode_of_fits address hpdu hfits

/-- Taking apart accepts a body of any length, if its own trailer stands behind it. -/
theorem decode_eq_ok_iff :
    decode frame = .ok (address, pdu) ↔
      pdu ≠ [] ∧ frame = address :: pdu ++ trailer (address :: pdu) := by
  constructor
  · intro hdecode
    by_cases hlong : 4 ≤ frame.length
    · obtain ⟨sender, first, rest, low, high, rfl⟩ := exists_parts hlong
      rw [decode_append_trailer] at hdecode
      by_cases hown : [low, high] = trailer (sender :: first :: rest)
      · have hchecked : verify (sender :: first :: rest) low high = .ok () :=
          if_neg (fun h => h ((checksum_eq_iff _ _ _).mpr hown))
        rw [hchecked] at hdecode
        cases hdecode
        exact ⟨List.cons_ne_nil _ _, by rw [hown]⟩
      · rw [verify_of_ne_trailer hown] at hdecode
        cases hdecode
    · rw [decode_of_short (Nat.lt_of_not_le hlong)] at hdecode
      cases hdecode
  · rintro ⟨hpdu, rfl⟩
    obtain ⟨first, rest, rfl⟩ := List.exists_cons_of_ne_nil hpdu
    rw [trailer, decode_append_trailer, verify_trailer]
    rfl

theorem length_framed (address : UInt8) (pdu : List UInt8) :
    (address :: pdu ++ trailer (address :: pdu)).length = pdu.length + overhead := by
  rw [List.length_append]
  rfl

/-- A message body is framed if it has a proper length, and taking its frame apart
gives back the address and the body.  Conversely, what can be taken apart is the
frame of what it is taken apart into, unless it is longer than any frame; so up
to that length making and taking apart have the same frames.  Fewer bytes than
the shortest frame has, and bodies with another trailer than their own, are
refused. -/
theorem decode_inverts_encode :
    (∀ address pdu, (∃ frame, encode address pdu = .ok frame) ↔
        1 ≤ pdu.length ∧ pdu.length ≤ 253) ∧
      (∀ address pdu frame, encode address pdu = .ok frame →
        frame = address :: pdu ++ trailer (address :: pdu) ∧ frame.length = pdu.length + 3 ∧
          decode frame = .ok (address, pdu)) ∧
      (∀ frame address pdu, decode frame = .ok (address, pdu) →
        pdu ≠ [] ∧ frame.length = pdu.length + 3 ∧
          (frame.length ≤ 256 → encode address pdu = .ok frame)) ∧
      (∀ frame, frame.length ≤ 256 →
        ((∃ address pdu, decode frame = .ok (address, pdu)) ↔
          ∃ address pdu, encode address pdu = .ok frame)) ∧
      (∀ frame, frame.length < 4 →
        decode frame = .error (.protocol (.frameTooShort frame.length))) ∧
      ∀ body low high, 2 ≤ body.length → [low, high] ≠ trailer body →
        decode (body ++ [low, high]) = .error (.protocol
          (.checksum (checksum body) (low.toUInt16 ||| (high.toUInt16 <<< 8)))) := by
  have hdecoded : ∀ address pdu frame, encode address pdu = .ok frame →
      decode frame = .ok (address, pdu) := by
    intro address pdu frame hencode
    exact decode_eq_ok_iff.mpr (eq_of_encode hencode)
  have hencoded : ∀ frame address pdu, decode frame = .ok (address, pdu) →
      pdu ≠ [] ∧ frame.length = pdu.length + 3 ∧
        (frame.length ≤ 256 → encode address pdu = .ok frame) := by
    intro frame address pdu hdecode
    obtain ⟨hpdu, rfl⟩ := decode_eq_ok_iff.mp hdecode
    have hlength := length_framed address pdu
    refine ⟨hpdu, hlength, ?_⟩
    intro hshort
    rw [hlength] at hshort
    exact encode_of_fits address (List.length_pos_iff.mpr hpdu) (Nat.le_of_add_le_add_right hshort)
  refine ⟨?_, ?_, hencoded, ?_, fun frame => decode_of_short, ?_⟩
  · intro address pdu
    constructor
    · rintro ⟨frame, hencode⟩
      exact (encode_eq_ok_iff.mp hencode).1
    · rintro ⟨hpdu, hfits⟩
      exact ⟨_, encode_of_fits address hpdu hfits⟩
  · intro address pdu frame hencode
    obtain ⟨_, hframe⟩ := eq_of_encode hencode
    exact ⟨hframe, hframe ▸ length_framed address pdu, hdecoded address pdu frame hencode⟩
  · intro frame hshort
    constructor
    · rintro ⟨address, pdu, hdecode⟩
      exact ⟨address, pdu, (hencoded frame address pdu hdecode).2.2 hshort⟩
    · rintro ⟨address, pdu, hencode⟩
      exact ⟨address, pdu, hdecoded address pdu frame hencode⟩
  · intro body low high hbody hother
    match body with
    | address :: first :: rest =>
        rw [decode_append_trailer, verify_of_ne_trailer hother]
        rfl

/-- The longest frame, a sequence of bytes that is longer, and a trailer whose
bytes stand the other way round. -/
theorem decode_inverts_encode_longest :
    (∃ frame, encode 17 (List.replicate 253 0) = .ok frame ∧ frame.length = 256 ∧
      decode frame = .ok (17, List.replicate 253 0)) ∧
      (¬∃ frame, encode 17 (List.replicate 254 0) = .ok frame) ∧
      [132, 10] = trailer [1, 3, 0, 0, 0, 1] ∧
      decode ([1, 3, 0, 0, 0, 1] ++ [132, 10]) = .ok (1, [3, 0, 0, 0, 1]) ∧
      encode 1 [3, 0, 0, 0, 1] = .ok ([1, 3, 0, 0, 0, 1] ++ [132, 10]) ∧
      decode ([1, 3, 0, 0, 0, 1] ++ [10, 132]) =
        .error (.protocol (.checksum 0x0A84 0x840A)) ∧
      decode [1, 3, 0] = .error (.protocol (.frameTooShort 3)) := by
  obtain ⟨hmade, hdecodes, hencodes, _, hshort, hother⟩ := decode_inverts_encode
  have hlongest : (List.replicate 253 (0 : UInt8)).length = 253 := List.length_replicate
  obtain ⟨frame, hframe⟩ := (hmade 17 (List.replicate 253 0)).mpr (by rw [hlongest]; decide)
  have hparts := hdecodes _ _ _ hframe
  have hreference : decode ([1, 3, 0, 0, 0, 1] ++ [132, 10]) = .ok (1, [3, 0, 0, 0, 1]) := by
    decide +kernel
  have hchecksum : checksum [1, 3, 0, 0, 0, 1] = 0x0A84 := by decide +kernel
  have hturned := hother [1, 3, 0, 0, 0, 1] 10 132 (by decide) (by decide +kernel)
  rw [hchecksum] at hturned
  refine ⟨⟨frame, hframe, by rw [hparts.2.1, hlongest], hparts.2.2⟩, ?_, by decide +kernel,
    hreference, (hencodes _ _ _ hreference).2.2 (by decide), hturned,
    hshort [1, 3, 0] (by decide)⟩
  rw [hmade, List.length_replicate]
  decide

end InstrumentLink.Frame
