/-
Module: HybridKeys.Proofs.Primality
Purpose: The order of the field and the order of the group of P-256 are primes.
Main exports: Primality.Step, Primality.certifies, prime_of_certifies, P256.fieldPrime_prime,
  P256.groupOrder_prime
-/
import Mathlib.Data.List.Prime
import Mathlib.NumberTheory.LucasPrimality
import Mathlib.Tactic.NormNum.Prime
import HybridKeys.Curve.P256
import HybridKeys.Proofs.Residues

namespace HybridKeys

namespace Modular

/-- A computed power is a least residue. -/
theorem pow_lt {m : ℕ} (positive : 0 < m) (a : ℕ) (exponent : List Bool) :
    pow m a exponent < m := by
  induction exponent using List.reverseRecOn with
  | nil => exact Nat.mod_lt _ positive
  | append_singleton digits digit ih =>
      rw [pow, List.foldl_append, List.foldl_cons, List.foldl_nil]
      cases digit <;> exact Nat.mod_lt _ positive

end Modular

namespace Primality

/-!
A number is prime once a base is known whose order modulo it is the number less one.  To see the order
one has to know the prime factors of the number less one, and these are certified in the same way.  So
a certificate is a list of steps, and the factors of each step are numbers of earlier ones.
-/

/-- A number, a base of full order modulo it, and the prime factors of the number less one, each as
often as it divides. -/
structure Step where
  number : ℕ
  base : ℕ
  factors : List ℕ

namespace Step

/-- A power of the base, modulo the number. -/
def power (step : Step) (exponent : ℕ) : ℕ :=
  Modular.pow step.number step.base (Modular.bits (step.number.log2 + 1) exponent)

/-- The test of one step, given numbers that are known to be prime. -/
def passes (step : Step) (known : List ℕ) : Bool :=
  1 < step.number && step.factors.all (known.contains ·) && step.factors.prod == step.number - 1 &&
    step.power (step.number - 1) == 1 &&
    step.factors.all fun q => step.power ((step.number - 1) / q) != 1

theorem cast_power (step : Step) {exponent : ℕ} (below : exponent ≤ step.number) :
    ((step.power exponent : ℕ) : ZMod step.number) = (step.base : ZMod step.number) ^ exponent := by
  have fits : exponent < 2 ^ (step.number.log2 + 1) := lt_of_le_of_lt below Nat.lt_log2_self
  rw [power, Modular.cast_pow, Modular.ofBits_bits fits]

/-- Lucas's test: a step that passes names a prime. -/
theorem prime_of_passes {step : Step} {known : List ℕ} (primes : ∀ q ∈ known, q.Prime)
    (passed : step.passes known = true) : step.number.Prime := by
  simp only [passes, Bool.and_eq_true, decide_eq_true_eq, List.all_eq_true, List.contains_iff_mem,
    beq_iff_eq, bne_iff_ne] at passed
  obtain ⟨⟨⟨⟨aboveOne, factorsKnown⟩, product⟩, full⟩, proper⟩ := passed
  apply lucas_primality step.number (step.base : ZMod step.number)
  · rw [← step.cast_power (Nat.sub_le _ _), full, Nat.cast_one]
  · intro q qPrime divides powerOne
    have factorPrimes : ∀ factor ∈ step.factors, Prime factor :=
      fun factor member => (primes factor (factorsKnown factor member)).prime
    have member : q ∈ step.factors :=
      mem_list_primes_of_dvd_prod qPrime.prime factorPrimes (product ▸ divides)
    have below : (step.number - 1) / q ≤ step.number :=
      (Nat.div_le_self _ _).trans (Nat.sub_le _ _)
    have residueBelow : step.power ((step.number - 1) / q) < step.number :=
      Modular.pow_lt (by omega) _ _
    apply proper q member
    apply Modular.eq_of_cast_eq residueBelow aboveOne
    rw [step.cast_power below, powerOne, Nat.cast_one]

end Step

/-- The test of a certificate: every step passes, given what is known and the numbers of the steps
before it. -/
def certifies : List ℕ → List Step → Bool
  | _, [] => true
  | known, step :: rest => step.passes known && certifies (step.number :: known) rest

/-- Every number of a certificate is prime. -/
theorem prime_of_certifies {known : List ℕ} {steps : List Step} (primes : ∀ q ∈ known, q.Prime)
    (passed : certifies known steps = true) : ∀ p ∈ steps.map Step.number, p.Prime := by
  induction steps generalizing known with
  | nil => simp
  | cons first rest ih =>
      rw [certifies, Bool.and_eq_true] at passed
      have firstPrime := Step.prime_of_passes primes passed.1
      have knownPrimes : ∀ q ∈ first.number :: known, q.Prime := by
        intro q member
        rcases List.mem_cons.1 member with rfl | earlier
        · exact firstPrime
        · exact primes q earlier
      intro p member
      rw [List.map_cons] at member
      rcases List.mem_cons.1 member with rfl | later
      · exact firstPrime
      · exact ih knownPrimes passed.2 p later

/-- The factors below ten thousand. -/
def smallFactors : List ℕ :=
  [2, 3, 5, 7, 11, 17, 19, 23, 29, 31, 41, 43, 53, 71, 97, 107, 127, 131, 173, 197, 229, 257, 263,
    311, 313, 337, 373, 641, 661, 727, 757, 1201, 1297, 1531, 2411, 3023, 3407, 3677, 3769, 4349,
    9547]

theorem prime_of_mem_smallFactors : ∀ q ∈ smallFactors, q.Prime := by
  simp only [smallFactors, List.forall_mem_cons]
  norm_num

/-- The certificate of both orders, which are its last two numbers. -/
def ordersCertificate : List Step :=
  [⟨16879, 3, [2, 3, 29, 97]⟩,
    ⟨17449, 14, [2, 2, 2, 3, 727]⟩,
    ⟨18169, 11, [2, 2, 2, 3, 757]⟩,
    ⟨38189, 2, [2, 2, 9547]⟩,
    ⟨65537, 3, List.replicate 16 2⟩,
    ⟨78283, 3, [2, 3, 3, 4349]⟩,
    ⟨104471, 11, [2, 5, 31, 337]⟩,
    ⟨126241, 7, [2, 2, 2, 2, 2, 3, 5, 263]⟩,
    ⟨155317, 5, [2, 2, 3, 7, 43, 43]⟩,
    ⟨490463, 14, [2, 7, 53, 661]⟩,
    ⟨704251, 2, [2, 3, 3, 5, 5, 5, 313]⟩,
    ⟨3969899, 2, [2, 19, 104471]⟩,
    ⟨6700417, 5, [2, 2, 2, 2, 2, 2, 2, 3, 17449]⟩,
    ⟨9350987, 2, [2, 17, 229, 1201]⟩,
    ⟨187019741, 2, [2, 2, 5, 9350987]⟩,
    ⟨191039911, 3, [2, 3, 5, 41, 155317]⟩,
    ⟨204061199, 11, [2, 11, 23, 107, 3769]⟩,
    ⟨311245691, 2, [2, 5, 7, 17, 29, 29, 311]⟩,
    ⟨622491383, 5, [2, 311245691]⟩,
    ⟨34282281433, 17, [2, 2, 2, 3, 7, 204061199]⟩,
    ⟨66417393611, 6, [2, 5, 53, 173, 197, 3677]⟩,
    ⟨1002328039319, 19, [2, 126241, 3969899]⟩,
    ⟨11290956913871, 13, [2, 5, 17, 66417393611]⟩,
    ⟨46076956964474543, 5, [2, 23, 18169, 78283, 704251]⟩,
    ⟨208150935158385979, 2, [2, 3, 11, 43, 127, 3023, 191039911]⟩,
    ⟨2624747550333869278416773953, 7, [2, 2, 2, 2, 2, 2, 3, 3, 1297, 16879, 208150935158385979]⟩,
    ⟨774023187263532362759620327192479577272145303, 3,
      [2, 3, 3, 2411, 34282281433, 11290956913871, 46076956964474543]⟩,
    ⟨835945042244614951780389953367877943453916927241, 11,
      [2, 2, 2, 3, 3, 3, 5, 774023187263532362759620327192479577272145303]⟩,
    ⟨P256.fieldPrime, 6,
      [2, 3, 5, 5, 17, 257, 641, 1531, 65537, 490463, 6700417,
        835945042244614951780389953367877943453916927241]⟩,
    ⟨P256.groupOrder, 7,
      [2, 2, 2, 2, 3, 71, 131, 373, 3407, 17449, 38189, 187019741, 622491383, 1002328039319,
        2624747550333869278416773953]⟩]

/-- The certificate passes; the kernel computes its powers. -/
theorem certifies_ordersCertificate : certifies smallFactors ordersCertificate = true := by
  decide +kernel

end Primality

namespace P256

open Primality

theorem fieldPrime_prime : fieldPrime.Prime :=
  prime_of_certifies prime_of_mem_smallFactors certifies_ordersCertificate
    fieldPrime (by simp [ordersCertificate])

theorem groupOrder_prime : groupOrder.Prime :=
  prime_of_certifies prime_of_mem_smallFactors certifies_ordersCertificate
    groupOrder (by simp [ordersCertificate])

end P256

end HybridKeys
