/-
Module: HybridKeys.Composite
Purpose: The layout that joins a classical and a post-quantum key into one byte string.
Main exports: Composite.layout, writeOver, joinPublic, joinPrivate, split
-/
import HybridKeys.Action
import HybridKeys.Secret

namespace HybridKeys.Composite

/-!
Public and private keys share one layout: the length of the classical part as a number of four bytes,
most significant first; the classical part; and the post-quantum part, which takes the rest.
-/

/-- The number of bytes in which the length of the classical part is written. -/
def headerLength : Nat := 4

/-- The length of a composite key, from the lengths of its parts. -/
def length (classical pq : Nat) : Nat :=
  headerLength + classical + pq

/-- The same length where lengths are words of 64 bits, which wrap around. -/
def wordLength (classical pq : UInt64) : UInt64 :=
  UInt64.ofNat headerLength + classical + pq

/-- The composite key of two parts. -/
def layout (classical pq : Bytes) : Bytes :=
  Bytes.ofNat headerLength classical.length ++ classical ++ pq

/-- Write a composite key over a buffer, which must have its length: the header, and each part where the
one before it ends. -/
def writeOver (classical pq : Bytes) : Action Bytes Unit := do
  let out ← Action.get
  Check.length "composite key" out.length (length classical.length pq.length)
  Check.that (classical.length < UInt32.size) "composite key" "classical part too large"
  Action.update (·.overwrite 0 (Bytes.ofNat headerLength classical.length))
  Action.update (·.overwrite headerLength classical)
  Action.update (·.overwrite (headerLength + classical.length) pq)

def joinPublic (memory : Memory) (classical pq : Bytes) : Except Error Bytes := do
  let out ← Check.allocate memory "composite public key" (length classical.length pq.length)
  (writeOver classical pq).exec out

def joinPrivate (memory : Memory) (classical pq : Bytes) : Except Error Secret := do
  let out ← Secret.zeroed memory (length classical.length pq.length)
  return ⟨← (writeOver classical pq).exec out.bytes⟩

/-- The two parts of a composite key whose classical part must have the given length.  The bound on the
length of the whole is a word of 64 bits, which wraps around. -/
def split (bytes : Bytes) (classicalLength : UInt64) : Except Error (Bytes × Bytes) := do
  let bound := (wordLength classicalLength 0).toNat
  if bytes.length < bound then
    throw (.mismatchedLength "composite key" bound bytes.length)
  let declared := Bytes.toNat (bytes.take headerLength)
  Check.length "composite classical prefix" declared classicalLength.toNat
  let rest := bytes.drop headerLength
  return (rest.take classicalLength.toNat, rest.drop classicalLength.toNat)

/-- A composite key has the length that its parts announce. -/
@[simp] theorem length_layout (classical pq : Bytes) :
    (layout classical pq).length = length classical.length pq.length := by
  simp [layout, length, Nat.add_assoc]

/-- The three writes cover a buffer of the length of the key, so nothing is left of what it held. -/
theorem overwrite_overwrite_overwrite {classical pq buffer : Bytes}
    (whole : buffer.length = length classical.length pq.length) :
    ((buffer.overwrite 0 (Bytes.ofNat headerLength classical.length)).overwrite headerLength
      classical).overwrite (headerLength + classical.length) pq = layout classical pq := by
  have header : buffer.overwrite 0 (Bytes.ofNat headerLength classical.length) =
      Bytes.ofNat headerLength classical.length ++ buffer.drop headerLength := by
    simp [Bytes.overwrite]
  have first : (Bytes.ofNat headerLength classical.length).length = headerLength :=
    Bytes.length_ofNat headerLength classical.length
  have second : (Bytes.ofNat headerLength classical.length ++ classical).length =
      headerLength + classical.length := by
    rw [List.length_append, first]
  have nothingLeft : ((buffer.drop headerLength).drop classical.length).drop pq.length = [] := by
    rw [List.drop_drop, List.drop_drop]
    exact List.drop_eq_nil_of_le (Nat.le_of_eq (whole.trans (Nat.add_assoc _ _ _)))
  rw [header, Bytes.overwrite_append first, Bytes.overwrite_append second, nothingLeft,
    List.append_nil, layout]

/-- A buffer of another length and a classical part that the header cannot announce are refused, and then
the buffer is as it was. -/
theorem run_writeOver (classical pq buffer : Bytes) :
    (writeOver classical pq).run buffer =
      if buffer.length ≠ length classical.length pq.length then
        ⟨.error (.mismatchedLength "composite key" (length classical.length pq.length)
          buffer.length), buffer, []⟩
      else if classical.length < UInt32.size then ⟨.ok (), layout classical pq, []⟩
      else ⟨.error (.invalidInput "composite key" "classical part too large"), buffer, []⟩ := by
  by_cases whole : buffer.length = length classical.length pq.length
  · by_cases small : classical.length < UInt32.size
    · simp [writeOver, Check.length, Check.that, whole, small, overwrite_overwrite_overwrite whole]
    · simp [writeOver, Check.length, Check.that, whole, small]
  · simp [writeOver, Check.length, whole]

/-- What a length in words has beyond the size of a word is lost. -/
theorem toNat_wordLength_eq_mod (classical pq : UInt64) :
    (wordLength classical pq).toNat = length classical.toNat pq.toNat % UInt64.size := by
  simp only [length, wordLength, headerLength, UInt64.size, UInt64.toNat_add,
    UInt64.toNat_ofNat']
  omega

/-- As long as nothing wraps around, lengths in words are the true lengths. -/
theorem toNat_wordLength {classical pq : UInt64}
    (fits : length classical.toNat pq.toNat < UInt64.size) :
    (wordLength classical pq).toNat = length classical.toNat pq.toNat :=
  (toNat_wordLength_eq_mod classical pq).trans (Nat.mod_eq_of_lt fits)

/-- A split refuses bytes that are shorter than its bound, and then a header that names another length. -/
theorem split_eq (bytes : Bytes) (classicalLength : UInt64) :
    split bytes classicalLength =
      if bytes.length < (wordLength classicalLength 0).toNat then
        .error (.mismatchedLength "composite key" (wordLength classicalLength 0).toNat bytes.length)
      else if Bytes.toNat (bytes.take headerLength) = classicalLength.toNat then
        .ok ((bytes.drop headerLength).take classicalLength.toNat,
          (bytes.drop headerLength).drop classicalLength.toNat)
      else
        .error (.mismatchedLength "composite classical prefix" classicalLength.toNat
          (Bytes.toNat (bytes.take headerLength))) := by
  by_cases short : bytes.length < (wordLength classicalLength 0).toNat
  · simp [split, short, throw, throwThe, MonadExceptOf.throw, bind, Except.bind]
  · by_cases named : Bytes.toNat (bytes.take headerLength) = classicalLength.toNat
    · simp [split, short, named, Check.length, bind, Except.bind, pure, Except.pure]
    · simp [split, short, named, Check.length, bind, Except.bind]

end HybridKeys.Composite
