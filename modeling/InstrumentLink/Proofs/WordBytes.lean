import InstrumentLink.Message.Reply
import InstrumentLink.Proofs.Framing

/-!
# Words as bytes

Words travel as two bytes each, the more significant one first.  Packing them
and unpacking them are inverse to each other, a single word as well as a list
of them, so no word is read as another one.
-/

namespace InstrumentLink

namespace Pdu

def bigEndian (number : Nat) : List Nat := [number / 256, number % 256]

/-- Bytes are told apart by their numbers. -/
theorem eq_of_map_toNat {first second : List UInt8}
    (hnumbers : first.map UInt8.toNat = second.map UInt8.toNat) : first = second :=
  (List.map_inj_right fun _ _ => UInt8.toNat_inj.mp).mp hnumbers

theorem map_toNat_wordBytes (word : UInt16) :
    (wordBytes word).map UInt8.toNat = bigEndian word.toNat := by
  have hfits := word.toNat_lt
  have hhigh : word.toNat / 256 < 256 := by omega
  simp only [wordBytes, bigEndian, List.map_cons, List.map_nil, UInt16.toNat_toUInt8,
    UInt16.toNat_shiftRight, UInt16.reduceToNat, Nat.reduceMod, Nat.shiftRight_eq_div_pow,
    Nat.reducePow, Nat.mod_eq_of_lt hhigh]

theorem map_toNat_flatMap_wordBytes (words : List UInt16) :
    (words.flatMap wordBytes).map UInt8.toNat =
      words.flatMap fun word => bigEndian word.toNat := by
  rw [List.map_flatMap]
  exact congrArg (words.flatMap ·) (funext map_toNat_wordBytes)

theorem toNat_wordOf (high low : UInt8) :
    (wordOf high low).toNat = 256 * high.toNat + low.toNat := by
  have hlow : low.toNat < 2 ^ 8 := low.toNat_lt
  have hhigh := high.toNat_lt
  have hor := Nat.shiftLeft_add_eq_or_of_lt hlow high.toNat
  have hshift : high.toNat <<< 8 = high.toNat * 2 ^ 8 := Nat.shiftLeft_eq _ _
  have hfits : high.toNat <<< 8 < 65536 := by omega
  simp only [wordOf, UInt16.toNat_or, UInt8.toNat_toUInt16, UInt16.toNat_shiftLeft,
    UInt16.reduceToNat, Nat.reduceMod, Nat.reducePow]
  rw [Nat.mod_eq_of_lt hfits, ← hor]
  omega

@[simp]
theorem wordOf_wordBytes (word : UInt16) : wordOf (word >>> 8).toUInt8 word.toUInt8 = word := by
  rw [wordOf, UInt16.or_comm]
  exact Frame.word_of_bytes word

@[simp]
theorem wordBytes_wordOf (high low : UInt8) : wordBytes (wordOf high low) = [high, low] := by
  have hlow := low.toNat_lt
  apply eq_of_map_toNat
  rw [map_toNat_wordBytes, bigEndian, toNat_wordOf, List.map_cons, List.map_singleton]
  congr 1
  · omega
  · congr 1
    omega

end Pdu

namespace Reply

open Pdu

@[simp]
theorem unpackWords_flatMap (words : List UInt16) :
    unpackWords (words.flatMap wordBytes) = words := by
  induction words with
  | nil => rfl
  | cons word words ih =>
      rw [List.flatMap_cons]
      calc unpackWords (wordBytes word ++ words.flatMap wordBytes)
          = wordOf (word >>> 8).toUInt8 word.toUInt8 :: unpackWords (words.flatMap wordBytes) := rfl
        _ = word :: words := by rw [wordOf_wordBytes, ih]

/-- Data for a number of words is made up of that many words. -/
theorem unpackWords_spec {count : Nat} {data : List UInt8} (hlength : data.length = 2 * count) :
    (unpackWords data).length = count ∧ (unpackWords data).flatMap wordBytes = data := by
  induction count generalizing data with
  | zero =>
      obtain rfl := List.length_eq_zero_iff.mp hlength
      exact ⟨rfl, rfl⟩
  | succ count ih =>
      match data with
      | high :: low :: rest =>
          have hrest : rest.length = 2 * count := by
            simp only [List.length_cons] at hlength
            omega
          obtain ⟨hcount, hpacked⟩ := ih hrest
          refine ⟨congrArg Nat.succ hcount, ?_⟩
          rw [unpackWords, List.flatMap_cons, wordBytes_wordOf, hpacked]
          rfl

end Reply

end InstrumentLink
