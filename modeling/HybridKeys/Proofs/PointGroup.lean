/-
Module: HybridKeys.Proofs.PointGroup
Purpose: Multiples of the base point of P-256 are computed as the group law of the curve has them.
Main exports: P256.curve, P256.Represents, Represents.double, Represents.addAffine,
  represents_multiplyBase, multiple_ne_zero
-/
import Mathlib.AlgebraicGeometry.EllipticCurve.Affine.Point
import Mathlib.GroupTheory.OrderOfElement
import Mathlib.Tactic.LinearCombination
import HybridKeys.Proofs.Primality
import HybridKeys.Proofs.WrittenNumbers

namespace HybridKeys.P256

open WeierstrassCurve

instance : Fact fieldPrime.Prime := ⟨fieldPrime_prime⟩

/-- The field of the curve.  The least residues of the arithmetic are read in it. -/
abbrev Residue := ZMod fieldPrime

/-- The curve as a Weierstrass equation.  Its finite points and one at infinity form a group. -/
def curve : Affine Residue where
  a₁ := 0
  a₂ := 0
  a₃ := 0
  a₄ := -3
  a₆ := constantTerm

/-! ### The curve -/

theorem equation_iff (x y : Residue) :
    curve.Equation x y ↔ y * y = x * x * x - 3 * x + constantTerm := by
  rw [Affine.equation_iff]
  simp only [curve]
  constructor <;> intro equation <;> linear_combination equation

/-- The curve has no singular point. -/
theorem discriminant_ne_zero : curve.Δ ≠ 0 := by
  have integer : curve.Δ = ((16 * (108 - 27 * constantTerm ^ 2) : ℤ) : Residue) := by
    simp only [WeierstrassCurve.Δ, b₂, b₄, b₆, b₈, curve]
    push_cast
    ring
  rw [integer, Ne, ZMod.intCast_zmod_eq_zero_iff_dvd]
  decide +kernel

theorem nonsingular_of_equation {x y : Residue} (equation : curve.Equation x y) :
    curve.Nonsingular x y :=
  (Affine.equation_iff_nonsingular_of_Δ_ne_zero discriminant_ne_zero).1 equation

theorem two_ne_zero : (2 : Residue) ≠ 0 := by
  decide +kernel

@[simp] theorem negY_curve (x y : Residue) : curve.negY x y = -y := by
  simp [Affine.negY, curve]

/-- A point is its own inverse exactly when its second coordinate is zero. -/
theorem eq_negY_iff (x y : Residue) : y = curve.negY x y ↔ y = 0 := by
  rw [negY_curve]
  constructor
  · intro same
    have twice : 2 * y = 0 := by linear_combination same
    exact (mul_eq_zero.1 twice).resolve_left two_ne_zero
  · rintro rfl
    exact neg_zero.symm

/-! ### Residues read in the field -/

theorem cast_add (a b : ℕ) : ((add a b : ℕ) : Residue) = a + b :=
  Modular.cast_add a b

theorem cast_sub (a b : ℕ) : ((sub a b : ℕ) : Residue) = a - b :=
  Modular.cast_sub a b

theorem cast_mul (a b : ℕ) : ((mul a b : ℕ) : Residue) = a * b :=
  Modular.cast_mul a b

theorem mul_lt (a b : ℕ) : mul a b < fieldPrime :=
  Nat.mod_lt _ fieldPrime_prime.pos

theorem sub_lt (a b : ℕ) : sub a b < fieldPrime :=
  Nat.mod_lt _ fieldPrime_prime.pos

theorem add_lt (a b : ℕ) : add a b < fieldPrime :=
  Nat.mod_lt _ fieldPrime_prime.pos

/-! ### Triples that represent points -/

/-- A triple represents a point of the group: the point at infinity by a last coordinate of zero, a
finite point by its coordinates scaled with the square and the cube of the last one. -/
inductive Represents : Point → curve.Point → Prop where
  | infinity {p : Point} (zero : p.z = 0) : Represents p 0
  | finite {p : Point} {x y : Residue} {smooth : curve.Nonsingular x y}
      (nonzero : (p.z : Residue) ≠ 0) (first : (p.x : Residue) = x * p.z ^ 2)
      (second : (p.y : Residue) = y * p.z ^ 3) : Represents p (.some x y smooth)

namespace Represents

variable {p : Point} {point : curve.Point}

theorem ofAffine {x y : ℕ} (smooth : curve.Nonsingular x y) :
    Represents (Point.ofAffine x y) (.some x y smooth) :=
  .finite (by simp [Point.ofAffine]) (by simp [Point.ofAffine]) (by simp [Point.ofAffine])

/-- A last coordinate that reads as zero is zero. -/
theorem infinity_of_cast {p : Point} (below : p.z < fieldPrime) (zero : (p.z : Residue) = 0) :
    Represents p 0 :=
  .infinity ((Modular.cast_eq_zero_iff below).1 zero)

/-- Doubling follows the tangent. -/
theorem double (represents : Represents p point) : Represents p.double (point + point) := by
  cases represents with
  | infinity zero =>
      rw [add_zero]
      apply infinity_of_cast (mul_lt _ _)
      simp [Point.double, cast_mul, zero]
  | @finite x y smooth nonzero first second =>
      have z : (p.double.z : Residue) = 2 * y * p.z ^ 4 := by
        simp only [Point.double, cast_mul, second]
        push_cast
        ring
      by_cases vertical : y = 0
      · rw [Affine.Point.add_self_of_Y_eq ((eq_negY_iff x y).2 vertical)]
        apply infinity_of_cast (mul_lt _ _)
        rw [z, vertical, mul_zero, zero_mul]
      · have tangent : y ≠ curve.negY x y := mt (eq_negY_iff x y).1 vertical
        have slope : curve.slope x x y y = 3 * (x ^ 2 - 1) / (2 * y) := by
          have rise : 3 * x ^ 2 + 2 * curve.a₂ * x + curve.a₄ - curve.a₁ * y = 3 * (x ^ 2 - 1) := by
            simp only [curve]
            ring
          have run : y - -y = 2 * y := by ring
          rw [Affine.slope_of_Y_ne rfl tangent, negY_curve, rise, run]
        have twoNe := two_ne_zero
        rw [Affine.Point.add_self_of_Y_ne tangent]
        apply Represents.finite
        · rw [z]
          exact mul_ne_zero (mul_ne_zero twoNe vertical) (pow_ne_zero 4 nonzero)
        · rw [z, slope]
          simp only [Point.double, cast_mul, cast_sub, cast_add, first, second, Affine.addX, curve]
          push_cast
          field_simp
          ring
        · rw [z, slope]
          simp only [Point.double, cast_mul, cast_sub, cast_add, first, second, Affine.addX,
            Affine.addY, Affine.negAddY, Affine.negY, curve]
          push_cast
          field_simp
          ring

/-- Adding a finite point follows the chord; the tangent where the two points are one. -/
theorem addAffine (represents : Represents p point) {qx qy : ℕ}
    (smooth : curve.Nonsingular qx qy) :
    Represents (p.addAffine qx qy) (point + .some qx qy smooth) := by
  cases represents with
  | infinity zero =>
      rw [zero_add, Point.addAffine, if_pos zero]
      exact ofAffine smooth
  | @finite x y here nonzero first second =>
      have finite : p.z ≠ 0 := by
        intro zero
        rw [zero, Nat.cast_zero] at nonzero
        exact nonzero rfl
      -- `run` and `rise` are the differences of the coordinates, scaled: both are zero together with
      -- the residues that the computation tests.
      let h := sub (mul qx (mul p.z p.z)) p.x
      let r := sub (mul qy (mul (mul p.z p.z) p.z)) p.y
      have run : (h : Residue) = (qx - x) * p.z ^ 2 := by
        simp only [h, cast_sub, cast_mul, first]
        ring
      have rise : (r : Residue) = (qy - y) * p.z ^ 3 := by
        simp only [r, cast_sub, cast_mul, second]
        ring
      have hZero : h = 0 ↔ x = qx := by
        rw [← Modular.cast_eq_zero_iff (sub_lt _ _), run, mul_eq_zero, sub_eq_zero, eq_comm]
        simp [nonzero]
      have rZero : r = 0 ↔ y = qy := by
        rw [← Modular.cast_eq_zero_iff (sub_lt _ _), rise, mul_eq_zero, sub_eq_zero, eq_comm]
        simp [nonzero]
      by_cases sameX : x = qx
      · by_cases sameY : y = qy
        · have doubled : p.addAffine qx qy = p.double := by
            rw [Point.addAffine, if_neg finite, if_pos (hZero.2 sameX), if_pos (rZero.2 sameY)]
          subst sameX sameY
          rw [doubled]
          exact double (.finite nonzero first second)
        · have cancelled : p.addAffine qx qy = Point.infinity := by
            rw [Point.addAffine, if_neg finite, if_pos (hZero.2 sameX), if_neg (mt rZero.1 sameY)]
          have opposite : y = curve.negY qx qy :=
            (Affine.Y_eq_of_X_eq here.1 smooth.1 sameX).resolve_left sameY
          rw [cancelled, Affine.Point.add_of_Y_eq sameX opposite]
          exact .infinity rfl
      · have slope : curve.slope x qx y qy = (y - qy) / (x - qx) := Affine.slope_of_X_ne sameX
        have apart : x - qx ≠ 0 := sub_ne_zero.2 sameX
        rw [Point.addAffine, if_neg finite, if_neg (mt hZero.1 sameX), Affine.Point.add_of_X_ne sameX]
        have z : ((mul p.z h : ℕ) : Residue) = (qx - x) * p.z ^ 3 := by
          rw [cast_mul, run]
          ring
        apply Represents.finite
        · change ((mul p.z h : ℕ) : Residue) ≠ 0
          rw [z]
          exact mul_ne_zero (sub_ne_zero.2 (Ne.symm sameX)) (pow_ne_zero 3 nonzero)
        · change ((sub (sub (mul r r) (mul (mul h h) h)) (mul 2 (mul p.x (mul h h))) : ℕ) : Residue) =
            curve.addX x qx (curve.slope x qx y qy) * ((mul p.z h : ℕ) : Residue) ^ 2
          rw [z, slope]
          simp only [cast_mul, cast_sub, run, rise, first, Affine.addX, curve]
          push_cast
          field_simp
          ring
        · change ((sub (mul r (sub (mul p.x (mul h h))
              (sub (sub (mul r r) (mul (mul h h) h)) (mul 2 (mul p.x (mul h h))))))
                (mul p.y (mul (mul h h) h)) : ℕ) : Residue) =
            curve.addY x qx y (curve.slope x qx y qy) * ((mul p.z h : ℕ) : Residue) ^ 3
          rw [z, slope]
          simp only [cast_mul, cast_sub, run, rise, first, second, Affine.addX, Affine.addY,
            Affine.negAddY, Affine.negY, curve]
          push_cast
          field_simp
          ring

end Represents

/-! ### Multiples of the base point -/

/-- The equation on least residues is the equation of the curve in the field. -/
theorem onCurve_iff (x y : ℕ) :
    OnCurve x y ↔ x < fieldPrime ∧ y < fieldPrime ∧ curve.Equation x y := by
  have reading : mul y y = add (sub (mul (mul x x) x) (mul 3 x)) constantTerm ↔
      curve.Equation x y := by
    rw [equation_iff]
    constructor
    · intro same
      have cast := congrArg (Nat.cast : ℕ → Residue) same
      simpa only [cast_mul, cast_add, cast_sub, Nat.cast_ofNat] using cast
    · intro equation
      apply Modular.eq_of_cast_eq (mul_lt _ _) (add_lt _ _)
      simpa only [cast_mul, cast_add, cast_sub, Nat.cast_ofNat] using equation
  rw [OnCurve, reading]

theorem nonsingular_base : curve.Nonsingular baseX baseY := by
  have onCurve : OnCurve baseX baseY := by decide +kernel
  exact nonsingular_of_equation ((onCurve_iff baseX baseY).1 onCurve).2.2

/-- The base point in the group. -/
def basePoint : curve.Point :=
  .some baseX baseY nonsingular_base

/-- Double and add computes the multiple that the bits write. -/
theorem represents_multiplyBits (scalar : List Bool) :
    Represents (multiplyBits scalar) (Modular.ofBits scalar • basePoint) := by
  induction scalar using List.reverseRecOn with
  | nil =>
      simp only [multiplyBits, Modular.ofBits, List.foldl_nil, zero_nsmul]
      exact .infinity rfl
  | append_singleton digits digit ih =>
      have doubled := ih.double
      rw [multiplyBits, List.foldl_append, List.foldl_cons, List.foldl_nil, ← multiplyBits,
        Modular.ofBits_concat, add_nsmul, two_mul, add_nsmul]
      cases digit with
      | false => simpa using doubled
      | true => simpa [basePoint] using doubled.addAffine nonsingular_base

theorem represents_multiplyBase {scalar : ℕ} (fits : scalar < 2 ^ 256) :
    Represents (multiplyBase scalar) (scalar • basePoint) := by
  have represents := represents_multiplyBits (Modular.bits 256 scalar)
  rwa [Modular.ofBits_bits fits] at represents

/-- The multiple by the order of the group is computed to be the point at infinity. -/
theorem multiplyBase_groupOrder : (multiplyBase groupOrder).z = 0 := by
  decide +kernel

theorem groupOrder_nsmul_basePoint : groupOrder • basePoint = 0 := by
  have fits : groupOrder < 2 ^ 256 := by decide +kernel
  have represents := represents_multiplyBase fits
  generalize groupOrder • basePoint = multiple at represents
  cases represents with
  | infinity => rfl
  | finite nonzero => simp [multiplyBase_groupOrder] at nonzero

/-- The order of the group is a prime, so no smaller multiple of the base point is the point at
infinity. -/
theorem nsmul_basePoint_ne_zero {scalar : ℕ} (positive : 0 < scalar) (below : scalar < groupOrder) :
    scalar • basePoint ≠ 0 := by
  have := Fact.mk groupOrder_prime
  have order : addOrderOf basePoint = groupOrder :=
    addOrderOf_eq_prime groupOrder_nsmul_basePoint (Affine.Point.some_ne_zero nonsingular_base)
  intro zero
  have divides : groupOrder ∣ scalar := order ▸ addOrderOf_dvd_of_nsmul_eq_zero zero
  exact absurd (Nat.le_of_dvd positive divides) (Nat.not_le.2 below)

/-! ### Public keys -/

/-- The coordinates that are computed for a finite point are those of the curve. -/
theorem exists_toAffine_of_represents {p : Point} {point : curve.Point}
    (represents : Represents p point) (finite : point ≠ 0) :
    ∃ x y, p.toAffine? = some (x, y) ∧ OnCurve x y := by
  cases represents with
  | infinity => exact absurd rfl finite
  | @finite x y smooth nonzero first second =>
      have zNe : p.z ≠ 0 := by
        intro zero
        rw [zero, Nat.cast_zero] at nonzero
        exact nonzero rfl
      have inverted : ((inverse p.z : ℕ) : Residue) = (p.z : Residue)⁻¹ :=
        Modular.cast_inverse nonzero
      refine ⟨_, _, by rw [Point.toAffine?, if_neg zNe], ?_⟩
      rw [onCurve_iff]
      refine ⟨mul_lt _ _, mul_lt _ _, ?_⟩
      have sameX : ((mul p.x (mul (inverse p.z) (inverse p.z)) : ℕ) : Residue) = x := by
        rw [cast_mul, cast_mul, inverted, first]
        field_simp
      have sameY :
          ((mul p.y (mul (mul (inverse p.z) (inverse p.z)) (inverse p.z)) : ℕ) : Residue) = y := by
        rw [cast_mul, cast_mul, cast_mul, inverted, second]
        field_simp
      rw [sameX, sameY]
      exact smooth.1

/-- The public key of a scalar of the group is the encoding of a point of the curve. -/
theorem exists_publicKey_eq_encode {scalar : ℕ} (positive : 0 < scalar)
    (below : scalar < groupOrder) :
    ∃ x y, OnCurve x y ∧ publicKey scalar = encode (some (x, y)) := by
  have fits : scalar < 2 ^ 256 := below.trans (by decide +kernel)
  obtain ⟨x, y, affine, onCurve⟩ :=
    exists_toAffine_of_represents (represents_multiplyBase fits)
      (nsmul_basePoint_ne_zero positive below)
  exact ⟨x, y, onCurve, by rw [publicKey, affine]⟩

@[simp] theorem length_encode (x y : ℕ) : (encode (some (x, y))).length = 2 * fieldWidth + 1 := by
  simp [encode, two_mul]

/-- A point of the curve is read back from its encoding. -/
theorem decode?_encode {x y : ℕ} (onCurve : OnCurve x y) :
    decode? (encode (some (x, y))) = some (x, y) := by
  have widthEnough : fieldPrime < 256 ^ fieldWidth := by decide +kernel
  have first : Bytes.toNat (Bytes.ofNat fieldWidth x) = x :=
    Bytes.toNat_ofNat (onCurve.1.trans widthEnough)
  have second : Bytes.toNat (Bytes.ofNat fieldWidth y) = y :=
    Bytes.toNat_ofNat (onCurve.2.1.trans widthEnough)
  have whole : (Bytes.ofNat fieldWidth x ++ Bytes.ofNat fieldWidth y).length = 2 * fieldWidth := by
    simp [two_mul]
  simp only [encode, decode?, List.take_left' (Bytes.length_ofNat fieldWidth x),
    List.drop_left' (Bytes.length_ofNat fieldWidth x), first, second]
  rw [if_pos ⟨whole, onCurve⟩]

end HybridKeys.P256
