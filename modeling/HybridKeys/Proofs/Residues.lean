/-
Module: HybridKeys.Proofs.Residues
Purpose: Arithmetic on least residues is arithmetic in the ring of integers modulo a number.
Main exports: Modular.cast_add, cast_sub, cast_mul, ofBits_bits, cast_pow, cast_inverse
-/
import Mathlib.FieldTheory.Finite.Basic
import HybridKeys.Curve.Modular

namespace HybridKeys.Modular

/-!
A least residue is read in `ZMod m`.  The operations on residues become those of the ring, so an
identity between results is proved there, by algebra, and carried back to the residues.
-/

variable {m : ℕ}

theorem cast_add (a b : ℕ) : ((add m a b : ℕ) : ZMod m) = a + b := by
  simp [add]

theorem cast_mul (a b : ℕ) : ((mul m a b : ℕ) : ZMod m) = a * b := by
  simp [mul]

theorem cast_sub [NeZero m] (a b : ℕ) : ((sub m a b : ℕ) : ZMod m) = a - b := by
  have below : b % m ≤ m := (Nat.mod_lt b (NeZero.pos m)).le
  rw [sub, ZMod.natCast_mod, Nat.cast_add, Nat.cast_sub below, ZMod.natCast_self,
    ZMod.natCast_mod, zero_sub, sub_eq_add_neg]

/-- Two least residues with one reading are one. -/
theorem eq_of_cast_eq {a b : ℕ} (aBelow : a < m) (bBelow : b < m)
    (same : (a : ZMod m) = b) : a = b := by
  have residues := (ZMod.natCast_eq_natCast_iff' a b m).1 same
  rwa [Nat.mod_eq_of_lt aBelow, Nat.mod_eq_of_lt bBelow] at residues

/-- A least residue is zero exactly when its reading is. -/
theorem cast_eq_zero_iff {a : ℕ} (below : a < m) : (a : ZMod m) = 0 ↔ a = 0 := by
  rw [ZMod.natCast_eq_zero_iff]
  constructor
  · intro divides
    exact Nat.eq_zero_of_dvd_of_lt divides below
  · rintro rfl
    exact dvd_zero m

/-! ### Bits and powers -/

/-- Reading back the low bits of a number. -/
theorem ofBits_bits_from (start width number : ℕ) :
    (bits width number).foldl (fun total digit => 2 * total + digit.toNat) start =
      2 ^ width * start + number % 2 ^ width := by
  induction width generalizing start with
  | zero => simp [bits, Nat.mod_one]
  | succ width ih =>
      have split := Nat.mod_pow_succ (b := 2) (x := number) (k := width)
      rw [bits, List.foldl_cons, ih, split, Nat.toNat_testBit, pow_succ]
      ring

/-- The bits of a number that fits the width write the number. -/
theorem ofBits_bits {width number : ℕ} (fits : number < 2 ^ width) :
    ofBits (bits width number) = number := by
  rw [ofBits, ofBits_bits_from, Nat.mul_zero, Nat.zero_add, Nat.mod_eq_of_lt fits]

/-- Square and multiply computes the power whose exponent the bits write. -/
theorem cast_pow (a : ℕ) (exponent : List Bool) :
    ((pow m a exponent : ℕ) : ZMod m) = (a : ZMod m) ^ ofBits exponent := by
  induction exponent using List.reverseRecOn with
  | nil => simp [pow, ofBits]
  | append_singleton digits digit ih =>
      rw [ofBits_concat, pow, List.foldl_append, List.foldl_cons, List.foldl_nil, ← pow]
      cases digit with
      | false =>
          rw [if_neg Bool.false_ne_true, cast_mul, ih, Bool.toNat_false]
          ring
      | true =>
          rw [if_pos rfl, cast_mul, cast_mul, ih, Bool.toNat_true]
          ring

/-- Fermat's little theorem: the computed inverse is the inverse in the field. -/
theorem cast_inverse [Fact m.Prime] {a : ℕ} (nonzero : (a : ZMod m) ≠ 0) :
    ((inverse m a : ℕ) : ZMod m) = (a : ZMod m)⁻¹ := by
  have twoLe : 2 ≤ m := (Fact.out : m.Prime).two_le
  have fits : m - 2 < 2 ^ (m.log2 + 1) := lt_of_le_of_lt (Nat.sub_le m 2) Nat.lt_log2_self
  have fermat := ZMod.pow_card_sub_one_eq_one nonzero
  rw [inverse, cast_pow, ofBits_bits fits]
  apply eq_inv_of_mul_eq_one_left
  rw [← pow_succ, ← fermat]
  congr 1
  omega

end HybridKeys.Modular
