/-
Module: HybridKeys.Bytes
Purpose: Byte strings, the numbers that they write, and their comparison.
Main exports: Bytes, toNat, ofNat, toNatLittle, ofNatLittle, constantTimeEq, overwrite
-/

namespace HybridKeys

/-- A byte string, first byte first. -/
abbrev Bytes := List UInt8

namespace Bytes

/-! ### Numbers

A byte string of a fixed width and a number below `256 ^ width` determine each other, in either byte
order.  Key lengths, field elements and scalars are all written this way.
-/

/-- The number that a byte string writes, most significant byte first. -/
def toNat (bytes : Bytes) : Nat :=
  bytes.foldl (fun number byte => 256 * number + byte.toNat) 0

/-- The `width` low bytes of a number, most significant byte first. -/
def ofNat : Nat → Nat → Bytes
  | 0, _ => []
  | width + 1, number => ofNat width (number / 256) ++ [UInt8.ofNat number]

/-- The number that a byte string writes, least significant byte first. -/
def toNatLittle (bytes : Bytes) : Nat :=
  toNat bytes.reverse

/-- The `width` low bytes of a number, least significant byte first. -/
def ofNatLittle (width number : Nat) : Bytes :=
  (ofNat width number).reverse

@[simp] theorem toNat_nil : toNat [] = 0 := rfl

@[simp] theorem toNat_concat (bytes : Bytes) (last : UInt8) :
    toNat (bytes ++ [last]) = 256 * toNat bytes + last.toNat := by
  simp [toNat]

@[simp] theorem length_ofNat (width number : Nat) : (ofNat width number).length = width := by
  induction width generalizing number with
  | zero => rfl
  | succ width ih => simp [ofNat, ih]

@[simp] theorem length_ofNatLittle (width number : Nat) :
    (ofNatLittle width number).length = width := by
  simp [ofNatLittle]

/-! ### Comparison

The comparison looks at every byte of two strings of one length, whatever it has seen before, and
answers only at the end.
-/

/-- The bits in which two byte strings differ anywhere, gathered into one byte. -/
def difference : Bytes → Bytes → UInt8
  | left :: lefts, right :: rights => (left ^^^ right) ||| difference lefts rights
  | _, _ => 0

/-- Equality of byte strings in a time that depends on their lengths only. -/
def constantTimeEq (left right : Bytes) : Bool :=
  left.length == right.length && difference left right == 0

/-- Two byte strings of one length differ nowhere exactly when they are equal. -/
theorem difference_eq_zero_iff {left right : Bytes} (same : left.length = right.length) :
    difference left right = 0 ↔ left = right := by
  induction left generalizing right with
  | nil =>
    cases right with
    | nil => simp [difference]
    | cons _ _ => simp at same
  | cons l ls ih =>
    cases right with
    | nil => simp at same
    | cons r rs =>
      have tails : ls.length = rs.length := by simpa using same
      rw [difference, UInt8.or_eq_zero_iff, UInt8.xor_eq_zero_iff, ih tails, List.cons.injEq]

/-- The constant-time comparison decides equality. -/
@[simp] theorem constantTimeEq_iff (left right : Bytes) :
    constantTimeEq left right = true ↔ left = right := by
  simp only [constantTimeEq, Bool.and_eq_true, beq_iff_eq]
  constructor
  · rintro ⟨same, nowhere⟩
    exact (difference_eq_zero_iff same).1 nowhere
  · rintro rfl
    exact ⟨rfl, (difference_eq_zero_iff rfl).2 rfl⟩

/-! ### Writing in place -/

/-- The target with the source written over it from an offset on. -/
def overwrite (target : Bytes) (offset : Nat) (source : Bytes) : Bytes :=
  target.take offset ++ source ++ target.drop (offset + source.length)

/-- Writing as much as the target has leaves nothing of it. -/
theorem overwrite_all {target source : Bytes} (same : target.length = source.length) :
    overwrite target 0 source = source := by
  simp [overwrite, same]

/-- Writing where a first part ends keeps that part and takes the place of what follows it. -/
theorem overwrite_append {written : Bytes} {offset : Nat} (ends : written.length = offset)
    (rest source : Bytes) :
    overwrite (written ++ rest) offset source = written ++ source ++ rest.drop source.length := by
  subst ends
  simp [overwrite, List.drop_append]

end Bytes

end HybridKeys
