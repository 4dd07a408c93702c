/-
Module: HybridKeys.Proofs.NameOrder
Purpose: Names in the order of their characters are in the order of their bytes.
Main exports: Bytes.ofText, Bytes.encodeChar_append_lt, Bytes.ofText_lt_iff
-/
import HybridKeys.Bytes
import Mathlib.Data.String.Basic

namespace HybridKeys.Bytes

/-!
A character is encoded in one to four bytes.  The first byte tells how many there are, more of them for
larger characters, and the digits of the character follow from the highest to the lowest.  So of two
encodings that differ the smaller one is smaller where they first differ, and neither is the beginning
of the other.
-/

/-- The bytes of a text in UTF-8. -/
def ofText (text : String) : Bytes :=
  text.toUTF8.data.toList

theorem ofText_eq_flatMap (text : String) :
    ofText text = text.toList.flatMap String.utf8EncodeChar := by
  rw [ofText, String.toUTF8, ← String.utf8Encode_toList, List.utf8Encode]
  simp

/-- Bytes that are written as numbers are compared as numbers. -/
theorem ofNat_cons_lt_iff {m n : ℕ} (mSmall : m < 256) (nSmall : n < 256) {one two : Bytes} :
    UInt8.ofNat m :: one < UInt8.ofNat n :: two ↔ m < n ∨ m = n ∧ one < two := by
  rw [List.cons_lt_cons_iff, UInt8.lt_iff_toNat_lt, ← UInt8.toNat_inj, UInt8.toNat_ofNat',
    UInt8.toNat_ofNat', Nat.mod_eq_of_lt mSmall, Nat.mod_eq_of_lt nSmall]

/-- The encoding of a smaller character is smaller, whatever comes after it. -/
theorem encodeChar_append_lt {first second : Char} (less : first < second) (one two : Bytes) :
    String.utf8EncodeChar first ++ one < String.utf8EncodeChar second ++ two := by
  have numbers : first.val.toNat < second.val.toNat := less
  have valid : second.val.toNat < 0x110000 := by
    rcases second.valid with low | ⟨_, high⟩
    · exact low.trans (by decide)
    · exact high
  unfold String.utf8EncodeChar
  generalize first.val.toNat = m at *
  generalize second.val.toNat = n at *
  -- Of two numbers in base 64 the smaller one is smaller in the first digit in which they differ.
  have digits : m / 262144 < n / 262144 ∨ m / 262144 = n / 262144 ∧ m / 4096 < n / 4096 ∨
      m / 4096 = n / 4096 ∧ m / 64 < n / 64 ∨ m / 64 = n / 64 := by
    omega
  dsimp only
  split_ifs <;> simp (disch := omega) only [List.cons_append, ofNat_cons_lt_iff] <;>
    rcases digits with first | second | third | fourth <;> omega

/-- Characters before the first difference are encoded alike, and a text that ends there has no bytes
left. -/
theorem flatMap_encodeChar_lt {first second : List Char} (less : first < second) :
    first.flatMap String.utf8EncodeChar < second.flatMap String.utf8EncodeChar := by
  induction less with
  | @nil next rest =>
      rw [List.flatMap_cons]
      cases encoded : String.utf8EncodeChar next with
      | nil => exact absurd encoded (String.utf8EncodeChar_ne_nil)
      | cons byte bytes => exact List.nil_lt_cons _ _
  | rel smaller =>
      rw [List.flatMap_cons, List.flatMap_cons]
      exact encodeChar_append_lt smaller _ _
  | cons _ inductionHypothesis =>
      rw [List.flatMap_cons, List.flatMap_cons]
      exact List.append_left_lt inductionHypothesis

/-- Texts are in the order of their bytes. -/
theorem ofText_lt_iff {first second : String} : ofText first < ofText second ↔ first < second := by
  have grows : ∀ {one two : String}, one < two → ofText one < ofText two := by
    intro one two less
    rw [ofText_eq_flatMap, ofText_eq_flatMap]
    exact flatMap_encodeChar_lt (String.lt_iff_toList_lt.1 less)
  constructor
  · intro less
    rcases lt_trichotomy first second with smaller | rfl | larger
    · exact smaller
    · exact absurd less (List.lt_irrefl _)
    · exact absurd less (List.lt_asymm (grows larger))
  · exact grows

end HybridKeys.Bytes
