/-
Module: HybridKeys.Proofs.KeyPairBuffers
Purpose: A run of the library's keygen into two buffers fills both of them or neither.
Main exports: KeyPair.SameLengths, Primitive.Fits, Primitive.Refuses, Primitive.Ends, ends_fillBuffers,
  Refuses.unique, fillBuffers_both_or_neither
-/
import HybridKeys.Primitive

namespace HybridKeys

/-!
Six lengths meet in one call: the two that the primitive declares, those of the buffers, and those of the
keys that the library makes.  The buffers are held against the declared lengths first, one after the
other, and the library is not asked before both of them fit.  What it makes is held against the buffers,
both keys together, before either buffer is written.
-/

/-- Each key that was made has the length of its buffer. -/
structure KeyPair.SameLengths (made buffers : KeyPair) : Prop where
  publicKey : made.publicKey.length = buffers.publicKey.length
  secretKey : made.secretKey.length = buffers.secretKey.length

namespace Primitive

/-- Both buffers have the lengths that the primitive declares. -/
structure Fits (p : Primitive) (buffers : KeyPair) : Prop where
  publicKey : buffers.publicKey.length = p.publicKeyLength
  secretKey : buffers.secretKey.length = p.secretKeyLength

/-- The causes for which nothing is filled.  Each one presupposes that there is none before it. -/
inductive Refuses (p : Primitive) (buffers made : KeyPair) : Error → Prop where
  | publicBuffer (wrong : buffers.publicKey.length ≠ p.publicKeyLength) :
      Refuses p buffers made
        (.mismatchedLength p.name p.publicKeyLength buffers.publicKey.length)
  | secretBuffer (fits : buffers.publicKey.length = p.publicKeyLength)
      (wrong : buffers.secretKey.length ≠ p.secretKeyLength) :
      Refuses p buffers made
        (.mismatchedLength p.name p.secretKeyLength buffers.secretKey.length)
  | library (fits : p.Fits buffers) (wrong : ¬ made.SameLengths buffers) :
      Refuses p buffers made
        (.generationFailure p.name "primitive returned keys of unexpected length")

namespace Refuses

variable {p : Primitive} {buffers made : KeyPair} {first second : Error}

/-- Nothing is refused for two causes. -/
theorem unique (one : p.Refuses buffers made first) (two : p.Refuses buffers made second) :
    first = second := by
  cases one with
  | publicBuffer wrong =>
      cases two with
      | publicBuffer => rfl
      | secretBuffer fits => exact absurd fits wrong
      | library fits => exact absurd fits.publicKey wrong
  | secretBuffer fits wrong =>
      cases two with
      | publicBuffer other => exact absurd fits other
      | secretBuffer => rfl
      | library both => exact absurd both.secretKey wrong
  | library both wrong =>
      cases two with
      | publicBuffer other => exact absurd both.publicKey other
      | secretBuffer _ other => exact absurd both.secretKey other
      | library => rfl

/-- An outcome that fails for a cause fails for nothing but the cause. -/
theorem result_eq_iff (refuses : p.Refuses buffers made first) {e : Error} :
    (Except.error first : Except Error Unit) = .error e ↔ p.Refuses buffers made e := by
  constructor
  · intro same
    exact Except.error.inj same ▸ refuses
  · intro other
    exact congrArg Except.error (refuses.unique other)

/-- What fits and was made in the lengths of the buffers is not refused. -/
theorem not_fits_and_same (refuses : p.Refuses buffers made first) :
    ¬ (p.Fits buffers ∧ made.SameLengths buffers) := by
  rintro ⟨fits, same⟩
  cases refuses with
  | publicBuffer wrong => exact wrong fits.publicKey
  | secretBuffer _ wrong => exact wrong fits.secretKey
  | library _ wrong => exact wrong same

end Refuses

section Call

variable {τ : Type} (p : Primitive) (library : τ → KeyPair × τ) (buffers : KeyPair) (random : τ)

/-- The ways in which a call can end: refused before the library is asked, refused after that, and with
both buffers filled. -/
inductive Ends : Outcome (KeyPair × τ) Unit → Prop where
  | unasked {e : Error} (misfit : ¬ p.Fits buffers)
      (refuses : p.Refuses buffers (library random).1 e) :
      Ends ⟨.error e, (buffers, random), []⟩
  | asked {e : Error} (fits : p.Fits buffers)
      (refuses : p.Refuses buffers (library random).1 e) :
      Ends ⟨.error e, (buffers, (library random).2), []⟩
  | filled (fits : p.Fits buffers) (same : (library random).1.SameLengths buffers) :
      Ends ⟨.ok (), library random, []⟩

theorem ends_fillBuffers :
    p.Ends library buffers random ((p.fillBuffers library).run (buffers, random)) := by
  rw [run_fillBuffers]
  by_cases publicBuffer : buffers.publicKey.length = p.publicKeyLength
  · rw [if_neg (absurd publicBuffer)]
    by_cases secretBuffer : buffers.secretKey.length = p.secretKeyLength
    · rw [if_neg (absurd secretBuffer)]
      have fits : p.Fits buffers := ⟨publicBuffer, secretBuffer⟩
      by_cases same : (library random).1.publicKey.length = buffers.publicKey.length ∧
          (library random).1.secretKey.length = buffers.secretKey.length
      · rw [if_pos same]
        exact .filled fits ⟨same.1, same.2⟩
      · rw [if_neg same]
        exact .asked fits (.library fits fun other => same ⟨other.publicKey, other.secretKey⟩)
    · rw [if_pos secretBuffer]
      exact .unasked (fun fits => secretBuffer fits.secretKey)
        (.secretBuffer publicBuffer secretBuffer)
  · rw [if_pos publicBuffer]
    exact .unasked (fun fits => publicBuffer fits.publicKey) (.publicBuffer publicBuffer)

/-- Where the buffers do not fit, no library makes a difference. -/
theorem run_fillBuffers_congr (misfit : ¬ p.Fits buffers) (other : τ → KeyPair × τ) :
    (p.fillBuffers other).run (buffers, random) = (p.fillBuffers library).run (buffers, random) := by
  rw [run_fillBuffers, run_fillBuffers]
  by_cases publicBuffer : buffers.publicKey.length = p.publicKeyLength
  · have secretBuffer : buffers.secretKey.length ≠ p.secretKeyLength :=
      fun fits => misfit ⟨publicBuffer, fits⟩
    rw [if_neg (absurd publicBuffer), if_neg (absurd publicBuffer), if_pos secretBuffer,
      if_pos secretBuffer]
  · rw [if_pos publicBuffer, if_pos publicBuffer]

end Call

/-- A call succeeds exactly when the buffers have the declared lengths and the library made keys of the
lengths of the buffers.  Then the buffers hold these keys, and else they hold what they held.  The
error is the first cause that there is.  The library is asked once if the buffers fit, and not at all
if they do not. -/
theorem fillBuffers_both_or_neither {τ : Type} (p : Primitive) (library : τ → KeyPair × τ)
    (buffers : KeyPair) (random : τ) :
    let outcome := (p.fillBuffers library).run (buffers, random)
    let made := (library random).1
    (outcome.result = .ok () ↔ p.Fits buffers ∧ made.SameLengths buffers) ∧
    (outcome.result = .ok () → outcome.state.1 = made) ∧
    (∀ e, outcome.result = .error e ↔ p.Refuses buffers made e) ∧
    (∀ e, outcome.result = .error e → outcome.state.1 = buffers) ∧
    (p.Fits buffers → outcome.state.2 = (library random).2) ∧
    (¬ p.Fits buffers → outcome.state.2 = random ∧
      ∀ other : τ → KeyPair × τ, (p.fillBuffers other).run (buffers, random) = outcome) := by
  intro outcome made
  have independent : ¬ p.Fits buffers →
      ∀ other : τ → KeyPair × τ, (p.fillBuffers other).run (buffers, random) = outcome :=
    run_fillBuffers_congr p library buffers random
  have ends : p.Ends library buffers random outcome := ends_fillBuffers p library buffers random
  generalize outcome = final at ends independent ⊢
  cases ends with
  | unasked misfit refuses =>
      refine ⟨⟨nofun, fun both => absurd both.1 misfit⟩, nofun, ?_, fun _ _ => rfl,
        fun fits => absurd fits misfit, fun _ => ⟨rfl, independent misfit⟩⟩
      intro e
      exact refuses.result_eq_iff
  | asked fits refuses =>
      refine ⟨⟨nofun, fun both => absurd both refuses.not_fits_and_same⟩, nofun, ?_, fun _ _ => rfl,
        fun _ => rfl, fun misfit => absurd fits misfit⟩
      intro e
      exact refuses.result_eq_iff
  | filled fits same =>
      refine ⟨⟨fun _ => ⟨fits, same⟩, fun _ => rfl⟩, fun _ => rfl, ?_, nofun, fun _ => rfl,
        fun misfit => absurd fits misfit⟩
      intro e
      exact ⟨nofun, fun refuses => absurd ⟨fits, same⟩ refuses.not_fits_and_same⟩

end Primitive

end HybridKeys
