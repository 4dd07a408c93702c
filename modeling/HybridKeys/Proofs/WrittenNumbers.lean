/-
Module: HybridKeys.Proofs.WrittenNumbers
Purpose: A byte string of a fixed width and a number below a power of 256 determine each other.
Main exports: Bytes.toNat_ofNat, Bytes.toNat_lt, Bytes.ofNat_toNat
-/
import Mathlib.Algebra.Group.Nat.Defs
import Mathlib.Data.List.Induction
import HybridKeys.Bytes

namespace HybridKeys.Bytes

/-!
The last byte of a string writes the remainder by 256 of the number, and the bytes before it write the
quotient.  So a number is followed along its width, and a byte string from its end.
-/

/-- A number that fits the width is read back from its bytes. -/
theorem toNat_ofNat {width number : ℕ} (fits : number < 256 ^ width) :
    toNat (ofNat width number) = number := by
  induction width generalizing number with
  | zero =>
      have zero : number = 0 := Nat.lt_one_iff.1 fits
      rw [ofNat, toNat_nil, zero]
  | succ width inductionHypothesis =>
      have quotient : number / 256 < 256 ^ width := by
        rw [Nat.pow_succ] at fits
        exact Nat.div_lt_of_lt_mul (by omega)
      rw [ofNat, toNat_concat, inductionHypothesis quotient, UInt8.toNat_ofNat']
      omega

/-- A byte string writes a number below the power of 256 that its length names. -/
theorem toNat_lt (bytes : Bytes) : toNat bytes < 256 ^ bytes.length := by
  induction bytes using List.reverseRecOn with
  | nil => exact Nat.one_pos
  | append_singleton first last inductionHypothesis =>
      have byte := last.toNat_lt
      rw [toNat_concat, List.length_append, List.length_singleton, Nat.pow_succ]
      omega

/-- A byte string is the writing of its number at its own length. -/
theorem ofNat_toNat (bytes : Bytes) : ofNat bytes.length (toNat bytes) = bytes := by
  induction bytes using List.reverseRecOn with
  | nil => rfl
  | append_singleton first last inductionHypothesis =>
      have byte := last.toNat_lt
      have quotient : (256 * toNat first + last.toNat) / 256 = toNat first := by omega
      have remainder : UInt8.ofNat (256 * toNat first + last.toNat) = last := by
        apply UInt8.toNat_inj.1
        rw [UInt8.toNat_ofNat']
        omega
      rw [toNat_concat, List.length_append, List.length_singleton, ofNat, quotient, remainder,
        inductionHypothesis]

end HybridKeys.Bytes
