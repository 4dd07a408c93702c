/-
Module: HybridKeys.Proofs.CompositeCodec
Purpose: Joining two parts and splitting a composite key are inverse to each other.
Main exports: Composite.Encodes, Composite.IsMismatch, Announces.layout_parts, encodes_iff_announces,
  split_eq_ok_iff_encodes, split_eq_error_iff, Encodes.unique, encoding_bijective
-/
import HybridKeys.Proofs.EncodedKeys

namespace HybridKeys.Composite

/-!
A reader knows the length of the classical part and checks it against the header.  So what it reads is
determined by the bytes and the length, and what it accepts are the strings whose header names the
length: these are exactly the encodings of a classical part of that length before anything else.  The
header is a word of 32 bits, which leaves a part whose length is not such a word without an encoding.
-/

/-- The bytes are the encoding of two parts, the first of which has a length that the header can name. -/
structure Encodes (classical pq bytes : Bytes) : Prop where
  nameable : classical.length < UInt32.size
  laidOut : bytes = layout classical pq

/-- The outcome of a check that refuses a length. -/
def IsMismatch {α : Type} (result : Except Error α) : Prop :=
  ∃ context expected actual, result = .error (.mismatchedLength context expected actual)

/-! ### What announces a length -/

/-- A header is a word of 32 bits. -/
theorem toNat_take_headerLength_lt (bytes : Bytes) :
    Bytes.toNat (bytes.take headerLength) < UInt32.size := by
  refine (Bytes.toNat_lt (bytes.take headerLength)).trans_le ?_
  rw [size_eq_pow_headerLength]
  exact Nat.pow_le_pow_right (by decide) (List.length_take_le headerLength bytes)

namespace Announces

variable {classicalLength : ℕ} {bytes : Bytes} (announces : Announces classicalLength bytes)
include announces

theorem length_classicalPart : (classicalPart classicalLength bytes).length = classicalLength := by
  have room := announces.1
  rw [classicalPart, List.length_take, List.length_drop]
  omega

theorem lt : classicalLength < UInt32.size :=
  announces.2 ▸ toNat_take_headerLength_lt bytes

/-- The header of the bytes is the writing of the length that it names. -/
theorem header_eq : bytes.take headerLength = Bytes.ofNat headerLength classicalLength := by
  have width : (bytes.take headerLength).length = headerLength :=
    List.length_take_of_le ((Nat.le_add_right _ _).trans announces.1)
  calc bytes.take headerLength
      = Bytes.ofNat (bytes.take headerLength).length (Bytes.toNat (bytes.take headerLength)) :=
        (Bytes.ofNat_toNat _).symm
    _ = Bytes.ofNat headerLength classicalLength := by rw [width, announces.2]

/-- The bytes are the layout of the two parts that are read from them. -/
theorem layout_parts :
    layout (classicalPart classicalLength bytes) (pqPart classicalLength bytes) = bytes := by
  rw [layout, announces.length_classicalPart, ← announces.header_eq, classicalPart, pqPart,
    List.append_assoc, List.take_append_drop, List.take_append_drop]

end Announces

/-- Bytes with room for the length announce it exactly when they start with its writing. -/
theorem announces_iff_header {classicalLength : ℕ} {bytes : Bytes}
    (small : classicalLength < UInt32.size)
    (room : headerLength + classicalLength ≤ bytes.length) :
    Announces classicalLength bytes ↔
      bytes.take headerLength = Bytes.ofNat headerLength classicalLength := by
  constructor
  · intro announces
    exact announces.header_eq
  · intro header
    exact ⟨room, by rw [header, Bytes.toNat_ofNat (size_eq_pow_headerLength ▸ small)]⟩

/-- The encodings of a first part of some length are the bytes that announce the length, and the parts are
those that are read from the bytes. -/
theorem encodes_iff_announces {classicalLength : ℕ} {classical pq bytes : Bytes} :
    classical.length = classicalLength ∧ Encodes classical pq bytes ↔
      Announces classicalLength bytes ∧
        (classical, pq) = (classicalPart classicalLength bytes, pqPart classicalLength bytes) := by
  constructor
  · intro encoded
    rcases encoded with ⟨same, nameable, rfl⟩
    rw [same] at nameable
    exact ⟨announces_layout same pq nameable,
      by rw [classicalPart_layout same, pqPart_layout same]⟩
  · intro announced
    rcases announced with ⟨announces, ⟨⟩⟩
    have same := announces.length_classicalPart
    exact ⟨same, same.symm ▸ announces.lt, announces.layout_parts.symm⟩

/-- A string encodes one pair of parts at most. -/
theorem Encodes.unique {classical pq otherClassical otherPq bytes : Bytes}
    (one : Encodes classical pq bytes) (two : Encodes otherClassical otherPq bytes) :
    classical = otherClassical ∧ pq = otherPq := by
  obtain ⟨first, readFirst⟩ := encodes_iff_announces.1 ⟨rfl, one⟩
  obtain ⟨second, readSecond⟩ := encodes_iff_announces.1 ⟨rfl, two⟩
  have sameLength : classical.length = otherClassical.length := first.2.symm.trans second.2
  rw [sameLength] at readFirst
  exact Prod.mk.inj (readFirst.trans readSecond.symm)

/-! ### Splitting -/

section Split

variable {bytes : Bytes} {classicalLength : UInt64}
  (fits : headerLength + classicalLength.toNat < UInt64.size)
include fits

/-- As long as the bound does not wrap around, a split succeeds on the encodings with a first part of the
length, and gives back the parts. -/
theorem split_eq_ok_iff_encodes {classical pq : Bytes} :
    split bytes classicalLength = .ok (classical, pq) ↔
      classical.length = classicalLength.toNat ∧ Encodes classical pq bytes := by
  rw [split_eq_ok_iff fits, encodes_iff_announces]

/-- A split refuses bytes that are too short for the length, and then a header that names another. -/
theorem split_eq_error_iff {e : Error} :
    split bytes classicalLength = .error e ↔
      (bytes.length < headerLength + classicalLength.toNat ∧
        e = .mismatchedLength "composite key" (headerLength + classicalLength.toNat) bytes.length) ∨
      (headerLength + classicalLength.toNat ≤ bytes.length ∧
        Bytes.toNat (bytes.take headerLength) ≠ classicalLength.toNat ∧
        e = .mismatchedLength "composite classical prefix" classicalLength.toNat
          (Bytes.toNat (bytes.take headerLength))) := by
  rw [split_eq, toNat_wordLength_zero fits]
  by_cases short : bytes.length < headerLength + classicalLength.toNat
  · simp [short, Nat.not_le.2 short, eq_comm]
  · by_cases named : Bytes.toNat (bytes.take headerLength) = classicalLength.toNat
    · simp [short, named]
    · simp [short, named, Nat.not_lt.1 short, eq_comm]

theorem isMismatch_of_split_eq_error {e : Error} (failed : split bytes classicalLength = .error e) :
    IsMismatch (split bytes classicalLength) := by
  rcases (split_eq_error_iff fits).1 failed with ⟨-, rfl⟩ | ⟨-, -, rfl⟩
  · exact ⟨_, _, _, failed⟩
  · exact ⟨_, _, _, failed⟩

/-- What is not the encoding of a first part of the length is refused for a length. -/
theorem isMismatch_split (none : ¬ ∃ classical pq, classical.length = classicalLength.toNat ∧
      Encodes classical pq bytes) : IsMismatch (split bytes classicalLength) := by
  cases done : split bytes classicalLength with
  | error e => exact done ▸ isMismatch_of_split_eq_error fits done
  | ok parts => exact absurd ⟨parts.1, parts.2, (split_eq_ok_iff_encodes fits).1 done⟩ none

end Split

/-- Bytes with room for the length are refused only for their header. -/
theorem split_ofNat_eq_error_iff {bytes : Bytes} {classicalLength : ℕ}
    (small : classicalLength < UInt32.size) (room : headerLength + classicalLength ≤ bytes.length)
    {e : Error} :
    split bytes (UInt64.ofNat classicalLength) = .error e ↔
      Bytes.toNat (bytes.take headerLength) ≠ classicalLength ∧
        e = .mismatchedLength "composite classical prefix" classicalLength
          (Bytes.toNat (bytes.take headerLength)) := by
  simp [split_eq_error_iff (headerLength_add_ofNat_lt small), toNat_ofNat_of_lt small, room,
    Nat.not_lt.2 room]

/-! ### Joining -/

section Join

variable {classical pq : Bytes}

/-- Whatever a buffer of the right length holds, it holds the layout afterwards. -/
theorem run_writeOver_of_fits (nameable : classical.length < UInt32.size) {buffer : Bytes}
    (whole : buffer.length = length classical.length pq.length) :
    (writeOver classical pq).run buffer = ⟨.ok (), layout classical pq, []⟩ := by
  rw [run_writeOver, if_neg (not_not.2 whole), if_pos nameable]

/-- A write that is refused leaves the buffer as it was. -/
theorem run_writeOver_of_misfit {buffer : Bytes}
    (misfit : UInt32.size ≤ classical.length ∨ buffer.length ≠ length classical.length pq.length) :
    ∃ e, (writeOver classical pq).run buffer = ⟨.error e, buffer, []⟩ := by
  rw [run_writeOver]
  by_cases whole : buffer.length = length classical.length pq.length
  · have large : ¬ classical.length < UInt32.size :=
      Nat.not_lt.2 (misfit.resolve_right (not_not.2 whole))
    rw [if_neg (not_not.2 whole), if_neg large]
    exact ⟨_, rfl⟩
  · rw [if_pos whole]
    exact ⟨_, rfl⟩

end Join

/-! ### The codec -/

/-- The encoding is a bijection between the pairs of parts whose first one can be announced and the strings
that announce it.  All three writers write it, whatever their buffer held; a split with the length of
the first part gives back the pair, and with any other length it refuses; a split accepts nothing else;
and a write without an encoding, or into a buffer that does not have its length, leaves the buffer. -/
theorem encoding_bijective :
    (∀ classical pq : Bytes, classical.length < UInt32.size →
      Encodes classical pq (layout classical pq) ∧
      (∀ buffer : Bytes, buffer.length = length classical.length pq.length →
        (writeOver classical pq).run buffer = ⟨.ok (), layout classical pq, []⟩) ∧
      (∀ memory : Memory,
        (memory.grants "composite public key" (length classical.length pq.length) = true →
          joinPublic memory classical pq = .ok (layout classical pq)) ∧
        (memory.grants "secret buffer" (length classical.length pq.length) = true →
          joinPrivate memory classical pq = .ok ⟨layout classical pq⟩)) ∧
      ∀ classicalLength : UInt64, headerLength + classicalLength.toNat < UInt64.size →
        (classicalLength.toNat = classical.length →
          split (layout classical pq) classicalLength = .ok (classical, pq)) ∧
        (classicalLength.toNat ≠ classical.length →
          IsMismatch (split (layout classical pq) classicalLength))) ∧
    (∀ (bytes : Bytes) (classicalLength : UInt64), headerLength + classicalLength.toNat < UInt64.size →
      (∀ classical pq : Bytes, split bytes classicalLength = .ok (classical, pq) ↔
        classical.length = classicalLength.toNat ∧ Encodes classical pq bytes) ∧
      ((¬ ∃ classical pq : Bytes, classical.length = classicalLength.toNat ∧
          Encodes classical pq bytes) → IsMismatch (split bytes classicalLength))) ∧
    (∀ classical pq otherClassical otherPq bytes : Bytes, Encodes classical pq bytes →
      Encodes otherClassical otherPq bytes → classical = otherClassical ∧ pq = otherPq) ∧
    ∀ classical pq buffer : Bytes,
      UInt32.size ≤ classical.length ∨ buffer.length ≠ length classical.length pq.length →
      ∃ e, (writeOver classical pq).run buffer = ⟨.error e, buffer, []⟩ := by
  refine ⟨?_, ?_, ?_, ?_⟩
  · intro classical pq nameable
    have encodes : Encodes classical pq (layout classical pq) := ⟨nameable, rfl⟩
    refine ⟨encodes, ?_, ?_, ?_⟩
    · intro buffer whole
      exact run_writeOver_of_fits nameable whole
    · intro memory
      exact ⟨fun granted => joinPublic_eq_ok_iff.2 ⟨granted, nameable, rfl⟩,
        fun granted => joinPrivate_eq_ok_iff.2 ⟨granted, nameable, rfl⟩⟩
    · intro classicalLength fits
      constructor
      · intro same
        exact (split_eq_ok_iff_encodes fits).2 ⟨same.symm, encodes⟩
      · intro other
        apply isMismatch_split fits
        rintro ⟨first, second, length, encoded⟩
        obtain ⟨rfl, -⟩ := encodes.unique encoded
        exact other length.symm
  · intro bytes classicalLength fits
    exact ⟨fun _ _ => split_eq_ok_iff_encodes fits, isMismatch_split fits⟩
  · intro classical pq otherClassical otherPq bytes one two
    exact one.unique two
  · intro classical pq buffer misfit
    exact run_writeOver_of_misfit misfit

/-- Three bytes before two, into a buffer of other bytes: what is written is read back with the length
three, and with no other length that does not wrap around. -/
theorem encoding_of_three_and_two_bytes :
    let encoded : Bytes := [0, 0, 0, 3, 0xaa, 0xaa, 0xaa, 0xbb, 0xbb]
    (writeOver (List.replicate 3 0xaa) (List.replicate 2 0xbb)).run (List.replicate 9 0xff) =
        ⟨.ok (), encoded, []⟩ ∧
      split encoded 3 = .ok (List.replicate 3 0xaa, List.replicate 2 0xbb) ∧
      IsMismatch (split encoded 2) ∧
      (writeOver (List.replicate 3 0xaa) (List.replicate 2 0xbb)).run (List.replicate 8 0xff) =
        ⟨.error (.mismatchedLength "composite key" 9 8), List.replicate 8 0xff, []⟩ := by
  intro encoded
  obtain ⟨-, written, -, read⟩ :=
    encoding_bijective.1 (List.replicate 3 0xaa) (List.replicate 2 0xbb) (by decide)
  exact ⟨written _ rfl, (read 3 (by decide)).1 rfl, (read 2 (by decide)).2 (by decide), rfl⟩

end HybridKeys.Composite
