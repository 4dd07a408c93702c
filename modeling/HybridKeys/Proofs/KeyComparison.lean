/-
Module: HybridKeys.Proofs.KeyComparison
Purpose: The rules that a comparison of two keys goes by.
Main exports: Key.SameAlgorithm, agrees_iff, run_compare, publicRule, agrees_publicHalf,
  ComparisonRules, ComparisonRules.unique, comparison_by_rules
-/
import HybridKeys.Key.Operations

namespace HybridKeys

/-!
A comparison takes up the parts of a selection one by one, and each part has a rule of its own.  On the
algorithm and on the private part two keys agree when they are alike.  The public part is different on
purpose: a key that has one agrees with nobody there, itself included.
-/

namespace Selection

/-- The parts that a comparison looks at. -/
def compared : Selection := keyPair ∪ domain

/-- What a comparison looks at, one part at a time. -/
theorem inter_compared (s : Selection) :
    s ∩ compared = (if s.domainParameters then domain else empty) ∪
      ((if s.privateKey then privateHalf else empty) ∪ (if s.publicKey then publicHalf else empty)) := by
  rcases s with ⟨_ | _, _ | _, _ | _, _ | _⟩ <;> rfl

end Selection

namespace Key

variable {key other third : Key} {selection : Selection}

/-! ### One algorithm -/

/-- The keys are of one algorithm: names and classes are equal. -/
def SameAlgorithm (key other : Key) : Prop :=
  key.algorithm.name = other.algorithm.name ∧ key.algorithm.keyClass = other.algorithm.keyClass

instance (key other : Key) : Decidable (key.SameAlgorithm other) :=
  inferInstanceAs (Decidable (_ ∧ _))

theorem SameAlgorithm.refl (key : Key) : key.SameAlgorithm key :=
  ⟨rfl, rfl⟩

theorem SameAlgorithm.symm (same : key.SameAlgorithm other) : other.SameAlgorithm key :=
  ⟨same.1.symm, same.2.symm⟩

theorem SameAlgorithm.trans (same : key.SameAlgorithm other) (same' : other.SameAlgorithm third) :
    key.SameAlgorithm third :=
  ⟨same.1.trans same'.1, same.2.trans same'.2⟩

theorem sharesAlgorithm_iff : key.sharesAlgorithm other = true ↔ key.SameAlgorithm other := by
  simp [sharesAlgorithm, SameAlgorithm, and_comm]

/-! ### What is compared -/

/-- The constant-time comparison of the private parts decides whether they are the same. -/
theorem samePrivate_iff : key.samePrivate other = true ↔ key.privateKey = other.privateKey := by
  rw [samePrivate]
  cases key.privateKey <;> cases other.privateKey <;> simp

/-- Each selected part has its say. -/
theorem agrees_iff : key.agrees other selection = true ↔
    (selection.domainParameters = true → key.SameAlgorithm other) ∧
    (selection.privateKey = true → key.SameAlgorithm other ∧ key.privateKey = other.privateKey) ∧
    (selection.publicKey = true → key.SameAlgorithm other ∧ key.publicKey = none) := by
  simp only [agrees, Bool.and_eq_true, Bool.or_eq_true, Bool.not_eq_true', ← Bool.not_eq_true,
    ← Decidable.imp_iff_not_or, sharesAlgorithm_iff, samePrivate_iff, Option.isNone_iff_eq_none, and_assoc]

/-- A comparison always answers, and changes nothing. -/
theorem run_compare {σ : Type} (key other : Key) (selection : Selection) (state : σ) :
    (key.compare other selection : Action σ Bool).run state =
      ⟨.ok (key.agrees other selection), state, [.keyMatch key.algorithm.name selection]⟩ := by
  rw [compare, Action.run_emit_bind, Action.run_pure]

/-- Two keys agree on two selections together when they agree on each. -/
theorem agrees_union (s t : Selection) :
    key.agrees other (s ∪ t) = (key.agrees other s && key.agrees other t) := by
  rw [Bool.eq_iff_iff, Bool.and_eq_true, agrees_iff, agrees_iff, agrees_iff]
  simp only [Union.union, Selection.union, Bool.or_eq_true, or_imp]
  constructor
  · rintro ⟨⟨domain, domain'⟩, ⟨privatePart, privatePart'⟩, publicPart, publicPart'⟩
    exact ⟨⟨domain, privatePart, publicPart⟩, domain', privatePart', publicPart'⟩
  · rintro ⟨⟨domain, privatePart, publicPart⟩, domain', privatePart', publicPart'⟩
    exact ⟨⟨domain, domain'⟩, ⟨privatePart, privatePart'⟩, publicPart, publicPart'⟩

theorem agrees_inter_compared (key other : Key) (selection : Selection) :
    key.agrees other (selection ∩ .compared) = key.agrees other selection := by
  rcases selection with ⟨_ | _, _ | _, _ | _, _⟩ <;> rfl

theorem agrees_domain_iff : key.agrees other .domain = true ↔ key.SameAlgorithm other := by
  simp [agrees_iff, Selection.domain]

theorem agrees_privateHalf_iff : key.agrees other .privateHalf = true ↔
    key.SameAlgorithm other ∧ key.privateKey = other.privateKey := by
  simp [agrees_iff, Selection.privateHalf]

theorem agrees_publicHalf_iff : key.agrees other .publicHalf = true ↔
    key.SameAlgorithm other ∧ key.publicKey = none := by
  simp [agrees_iff, Selection.publicHalf]

/-- Agreement on the public part as it is specified: keys of two algorithms disagree, and so do keys that
both have a public key.  Otherwise a key agrees if it has none or has the same. -/
def publicRule (key other : Key) : Bool :=
  if ¬ key.SameAlgorithm other then false
  else if key.publicKey.isSome && other.publicKey.isSome then false
  else key.publicKey.isNone || key.publicKey = other.publicKey

/-- Once two public keys are ruled out, to have the same is to have none. -/
theorem agrees_publicHalf (key other : Key) : key.agrees other .publicHalf = key.publicRule other := by
  rw [Bool.eq_iff_iff, agrees_publicHalf_iff, publicRule]
  by_cases same : key.SameAlgorithm other
  · cases mine : key.publicKey with
    | none => simp [same]
    | some bytes => cases theirs : other.publicKey <;> simp [same]
  · simp [same]

/-- Two keys agree on the public part both ways only where neither has one. -/
theorem agrees_publicHalf_both_ways : key.agrees other .publicHalf = true →
    other.agrees key .publicHalf = true → key.publicKey = none ∧ other.publicKey = none := by
  intro agrees agreesBack
  exact ⟨(agrees_publicHalf_iff.1 agrees).2, (agrees_publicHalf_iff.1 agreesBack).2⟩

/-! ### The rules -/

/-- The rules of a comparison. -/
structure ComparisonRules (verdict : Key → Key → Selection → Bool) : Prop where
  /-- On two selections together the verdict is that on both. -/
  union : ∀ key other s t, verdict key other (s ∪ t) = (verdict key other s && verdict key other t)
  /-- Nothing but the algorithm and the two halves of the key pair is looked at. -/
  compared : ∀ key other s, verdict key other s = verdict key other (s ∩ .compared)
  empty : ∀ key other, verdict key other .empty = true
  domain : ∀ key other, verdict key other .domain = true ↔ key.SameAlgorithm other
  domainEquivalence : Equivalence fun key other => verdict key other .domain = true
  /-- The private parts are both absent or equal byte for byte. -/
  privateHalf : ∀ key other, verdict key other .privateHalf = true ↔ key.SameAlgorithm other ∧
    key.privateKey.map Secret.bytes = other.privateKey.map Secret.bytes
  privateEquivalence : Equivalence fun key other => verdict key other .privateHalf = true
  publicHalf : ∀ key other, verdict key other .publicHalf = key.publicRule other
  /-- On the public part keys agree both ways only where neither has one. -/
  publicBothWays : ∀ key other, verdict key other .publicHalf = true →
    verdict other key .publicHalf = true → key.publicKey = none ∧ other.publicKey = none

/-- The rules leave no choice: there is one verdict that follows them. -/
theorem ComparisonRules.unique {verdict verdict' : Key → Key → Selection → Bool}
    (rules : ComparisonRules verdict) (rules' : ComparisonRules verdict') : verdict = verdict' := by
  funext key other selection
  have onDomain : verdict key other .domain = verdict' key other .domain :=
    Bool.eq_iff_iff.2 ((rules.domain key other).trans (rules'.domain key other).symm)
  have onPrivateHalf : verdict key other .privateHalf = verdict' key other .privateHalf :=
    Bool.eq_iff_iff.2 ((rules.privateHalf key other).trans (rules'.privateHalf key other).symm)
  have onPublicHalf : verdict key other .publicHalf = verdict' key other .publicHalf :=
    (rules.publicHalf key other).trans (rules'.publicHalf key other).symm
  -- A part that is not selected is asked for as the empty selection.
  have onSelected : ∀ (selected : Bool) (part : Selection),
      verdict key other part = verdict' key other part →
        verdict key other (if selected then part else .empty) =
          verdict' key other (if selected then part else .empty) := by
    intro selected part same
    cases selected with
    | false => exact (rules.empty key other).trans (rules'.empty key other).symm
    | true => exact same
  rw [rules.compared, rules'.compared, Selection.inter_compared, rules.union, rules.union,
    rules'.union, rules'.union, onSelected _ _ onDomain, onSelected _ _ onPrivateHalf,
    onSelected _ _ onPublicHalf]

/-- A comparison always answers, leaves everything as it is, and goes by the rules. -/
theorem comparison_by_rules :
    ComparisonRules agrees ∧
      ∀ {σ : Type} (key other : Key) (selection : Selection) (state : σ),
        (key.compare other selection : Action σ Bool).run state =
          ⟨.ok (key.agrees other selection), state, [.keyMatch key.algorithm.name selection]⟩ := by
  refine ⟨?_, run_compare⟩
  constructor
  case union => exact fun key other s t => agrees_union s t
  case compared => exact fun key other s => (agrees_inter_compared key other s).symm
  case empty => exact fun _ _ => rfl
  case domain => exact fun key other => agrees_domain_iff
  case domainEquivalence =>
    simp only [agrees_domain_iff]
    exact ⟨SameAlgorithm.refl, SameAlgorithm.symm, SameAlgorithm.trans⟩
  case privateHalf =>
    intro key other
    rw [agrees_privateHalf_iff, Option.map_inj_right]
    rintro ⟨bytes⟩ ⟨_⟩ rfl
    rfl
  case privateEquivalence =>
    simp only [agrees_privateHalf_iff]
    constructor
    case refl => exact fun key => ⟨.refl key, rfl⟩
    case symm =>
      rintro key other ⟨same, privatePart⟩
      exact ⟨same.symm, privatePart.symm⟩
    case trans =>
      rintro key other third ⟨same, privatePart⟩ ⟨same', privatePart'⟩
      exact ⟨same.trans same', privatePart.trans privatePart'⟩
  case publicHalf => exact agrees_publicHalf
  case publicBothWays => exact fun key other => agrees_publicHalf_both_ways

/-- On the public part a key without one agrees with a key that has one, and not the other way round. -/
example : let lacking : Key := default
    let holding : Key := { lacking with publicKey := some [7] }
    lacking.agrees holding .publicHalf = true ∧ holding.agrees lacking .publicHalf = false ∧
      holding.agrees holding .publicHalf = false := by
  decide

end Key

end HybridKeys
