/-
Module: HybridKeys.Proofs.Regeneration
Purpose: What a generation makes of a key depends on the seed that the key was made with, and on nothing
  that was done to the key since.
Main exports: Key.Origin, Key.MadeWith, reachable_iff_exists_madeWith, MadeWith.identity,
  Key.Regenerated, regenerated_of_madeWith, Reachable.regenerated
-/
import HybridKeys.Proofs.KeyConsistency
import HybridKeys.Proofs.KeyGeneration

namespace HybridKeys.Key

/-!
A host can give a seed when it makes an empty key itself, and at no other time.  The classical handle of
the key is overwritten by every import, by every new public key and by every generation, and forgets its
scalar when the private part is erased.  The seed is kept apart from it.  So a generation finds the seed
as it was given, or else draws a classical key pair of its own.
-/

/-! ### Where a key comes from -/

/-- How a key is made, and with which seed. -/
inductive Origin : Option ClassicalKey → Key → Prop where
  | new {memory : Memory} {provider : Provider} {name : String} {seed : Option ClassicalKey}
      {keyClass : KeyClass} {query : Option String} {key : Key}
      (seedMade : ∀ handle, seed = some handle → handle.Made)
      (made : ((new memory provider name seed keyClass query : Action Unit Key).run ()).result =
        .ok key) : Origin seed key
  | generation {memory : Memory} {generation : Generation} {draw : Draw} {key : Key}
      (made : ((generation.generate memory draw : Action Unit Key).run ()).result = .ok key) :
      Origin none key
  | emptyKey {memory : Memory} {adapter : Adapter} {key : Key}
      (made : ((adapter.emptyKey memory : Action Unit Key).run ()).result = .ok key) :
      Origin none key
  | adapterGeneration {memory : Memory} {adapter : Adapter} {generation : Option Generation}
      {draw : Draw} {key : Key}
      (made : ((adapter.generate memory generation draw : Action Unit Key).run ()).result =
        .ok key) : Origin none key

/-- The key was made with the seed, or without one, and went through any steps since. -/
def MadeWith (key : Key) (seed : Option ClassicalKey) : Prop :=
  ∃ origin, Origin seed origin ∧ Relation.ReflTransGen Step origin key

theorem Origin.reachable {seed : Option ClassicalKey} {key : Key} (origin : Origin seed key) :
    key.Reachable := by
  cases origin with
  | new seedMade made => exact .new seedMade made
  | generation made => exact .generation made
  | emptyKey made => exact .emptyKey made
  | adapterGeneration made => exact .adapterGeneration made

theorem Reachable.steps {key after : Key} (reachable : key.Reachable)
    (steps : Relation.ReflTransGen Step key after) : after.Reachable := by
  induction steps with
  | refl => exact reachable
  | tail _ step inductionHypothesis => exact inductionHypothesis.step step

/-- The reachable keys are those that were made with a seed or without one. -/
theorem reachable_iff_exists_madeWith {key : Key} : key.Reachable ↔ ∃ seed, key.MadeWith seed := by
  constructor
  · intro reachable
    induction reachable with
    | new seedMade made => exact ⟨_, _, .new seedMade made, .refl⟩
    | generation made => exact ⟨_, _, .generation made, .refl⟩
    | emptyKey made => exact ⟨_, _, .emptyKey made, .refl⟩
    | adapterGeneration made => exact ⟨_, _, .adapterGeneration made, .refl⟩
    | step _ step inductionHypothesis =>
        obtain ⟨seed, origin, made, steps⟩ := inductionHypothesis
        exact ⟨seed, origin, made, steps.tail step⟩
  · intro madeWith
    obtain ⟨seed, origin, made, steps⟩ := madeWith
    exact made.reachable.steps steps

/-! ### What no history changes -/

/-- The algorithm is registered, and the seed is the given one. -/
structure Identity (key : Key) (seed : Option ClassicalKey) : Prop where
  registered : ⟨key.algorithm.name, key.algorithm.primitive⟩ ∈ Registry.entries
  seed : key.seed = seed

theorem Identity.of_create {memory : Memory} {provider : Provider} {name : String}
    {seed : Option ClassicalKey} {keyClass : KeyClass} {query : Option String} {key : Key}
    (created : create memory provider name seed keyClass query = .ok key) : key.Identity seed := by
  obtain ⟨a, resolved, -, -, rfl⟩ := create_eq_ok_iff.1 created
  obtain ⟨registered, -, named, -⟩ := Registry.resolve_eq_ok_iff.1 resolved
  exact ⟨by rwa [named], rfl⟩

theorem Identity.of_generation {memory : Memory} {generation : Generation} {draw : Draw} {key : Key}
    (done : ((generation.generate memory draw : Action Unit Key).run ()).result = .ok key) :
    key.Identity none := by
  obtain ⟨empty, made, created, -, rfl⟩ := exists_created_of_generation () done
  have identity := of_create created
  exact ⟨identity.registered, identity.seed⟩

theorem Origin.identity {seed : Option ClassicalKey} {key : Key} (origin : Origin seed key) :
    key.Identity seed := by
  cases origin with
  | new _ made =>
      rw [result_new] at made
      exact .of_create made
  | generation made => exact .of_generation made
  | emptyKey made =>
      rw [Adapter.emptyKey, result_new] at made
      exact .of_create made
  | @adapterGeneration _ _ generation _ _ made =>
      cases generation with
      | none => cases made
      | some generation => exact .of_generation made

/-- Whatever was done to a key, its seed is the one that it was made with. -/
theorem MadeWith.identity {key : Key} {seed : Option ClassicalKey} (madeWith : key.MadeWith seed) :
    key.Identity seed := by
  obtain ⟨origin, made, steps⟩ := madeWith
  induction steps with
  | refl => exact made.identity
  | tail _ step inductionHypothesis =>
      obtain ⟨-, sameAlgorithm, -, sameSeed⟩ := step.identity
      exact ⟨by rw [sameAlgorithm]; exact inductionHypothesis.registered,
        sameSeed.trans inductionHypothesis.seed⟩

/-! ### Generations -/

/-- What a generation leaves of a key that was made with the seed.  A plain key is what the library made.
A hybrid key has the same classical key pair in front of both parts and in its handle: the seed, or
else the fresh pair of the draw. -/
structure Regenerated (key : Key) (seed : Option ClassicalKey) (draw : Draw) (after : Key) : Prop where
  plain : key.algorithm.curve = none →
    after.publicKey = some draw.keyPair.publicKey ∧
      after.privateKey = some ⟨draw.keyPair.secretKey⟩ ∧ after.classical = none
  hybrid : ∀ curve, key.algorithm.curve = some curve → ∃ classical scalar,
    (∀ handle, seed = some handle → classical = handle) ∧
      (seed = none → classical = ClassicalKey.generate curve (draw.scalar curve)) ∧
      classical.curve = curve ∧ classical.privateKey = some scalar ∧
      classical.publicKey = curve.derive scalar ∧
      after.publicKey = some (Composite.layout classical.publicKey draw.keyPair.publicKey) ∧
      after.privateKey = some ⟨Composite.layout scalar draw.keyPair.secretKey⟩ ∧
      after.classical = some classical

/-- A seed that fits its algorithm, or a fresh key pair, holds its scalar. -/
theorem exists_scalar_of_classicalSource {a : Algorithm} {curve : Curve}
    {seed : Option ClassicalKey} (fits : a.SeedFits seed) (draw : Draw) :
    ∃ scalar, (Algorithm.classicalSource curve seed draw).privateKey = some scalar := by
  cases given : seed with
  | none => exact ⟨_, rfl⟩
  | some handle =>
      obtain ⟨-, holds, -⟩ := fits handle given
      exact Option.isSome_iff_exists.1 holds

/-- A generation with library keys of the declared lengths, and with memory for its buffers, succeeds on
every key that a host can come by, and what it leaves depends on the seed of the key and on the draw
alone. -/
theorem regenerated_of_madeWith {key : Key} {seed : Option ClassicalKey} (madeWith : key.MadeWith seed)
    {memory : Memory} (granted : key.algorithm.GrantsKeygen memory) {draw : Draw}
    (declared : key.algorithm.DeclaredLengths draw) :
    ((generate memory draw).run key).result = .ok () ∧
      Regenerated key seed draw ((generate memory draw).run key).state := by
  obtain ⟨-, rfl⟩ := madeWith.identity
  have fits := (reachable_iff_exists_madeWith.2 ⟨_, madeWith⟩).sound.seedFits
  rw [run_generate]
  cases hybrid : key.algorithm.curve with
  | none =>
      rw [Algorithm.keygen_of_plain granted declared hybrid]
      refine ⟨rfl, ?_, ?_⟩
      · intro _
        exact ⟨rfl, rfl, rfl⟩
      · rw [hybrid]
        rintro _ ⟨⟩
  | some curve =>
      obtain ⟨sound, onCurve⟩ := Algorithm.sound_classicalSource hybrid fits draw
      obtain ⟨scalar, holds⟩ := exists_scalar_of_classicalSource fits draw
      obtain ⟨-, derived⟩ := sound.held scalar holds
      rw [Algorithm.keygen_of_own_curve granted declared hybrid sound onCurve holds]
      refine ⟨rfl, ?_, ?_⟩
      · rw [hybrid]
        rintro ⟨⟩
      · rw [hybrid]
        rintro _ ⟨⟩
        refine ⟨_, scalar, ?_, ?_, onCurve, holds, ?_, rfl, rfl, rfl⟩
        · intro handle given
          rw [Algorithm.classicalSource, given, Option.getD_some]
        · intro unseeded
          rw [Algorithm.classicalSource, unseeded, Option.getD_none]
        · rw [derived, onCurve]

/-- Every reachable key was made with one seed or without one, once and for all; and after any history a
generation with library keys of the declared lengths, and with memory for its buffers, succeeds and leaves
what goes with that seed. -/
theorem Reachable.regenerated {key : Key} (reachable : key.Reachable) {memory : Memory}
    (granted : key.algorithm.GrantsKeygen memory) {draw : Draw}
    (declared : key.algorithm.DeclaredLengths draw) :
    (∃! seed, key.MadeWith seed) ∧
      ∀ seed, key.MadeWith seed →
        ((generate memory draw).run key).result = .ok () ∧
          Regenerated key seed draw ((generate memory draw).run key).state := by
  refine ⟨?_, ?_⟩
  · obtain ⟨seed, madeWith⟩ := reachable_iff_exists_madeWith.1 reachable
    refine ⟨seed, madeWith, ?_⟩
    intro other alsoMadeWith
    exact alsoMadeWith.identity.seed.symm.trans madeWith.identity.seed
  · intro seed madeWith
    exact regenerated_of_madeWith madeWith granted declared

/-! ### A seeded key that lost its scalar -/

/-- The empty key of the hybrid algorithm with a seed. -/
def seededKey : Key :=
  { withoutParts .x25519Mlkem512 with seed := some Algorithm.x25519Handle }

theorem origin_seededKey : Origin (some Algorithm.x25519Handle) seededKey := by
  have created : create .addressable {} "mlkem512" (some Algorithm.x25519Handle) .ecxHybridKem none =
      .ok seededKey := by
    refine create_eq_ok_iff.2 ⟨_, Algorithm.resolve_x25519Mlkem512, ?_, rfl, rfl⟩
    rintro _ ⟨⟩
    exact ⟨rfl, rfl⟩
  have made : ((new .addressable {} "mlkem512" (some Algorithm.x25519Handle) .ecxHybridKem none :
      Action Unit Key).run ()).result = .ok seededKey :=
    (result_new ()).trans created
  refine .new ?_ made
  rintro _ ⟨⟩
  exact Algorithm.made_x25519Handle

/-- The seeded key after it was given a public key that does not belong to the seed. -/
def overwrittenKey : Key :=
  ((replacePublicKey .addressable
    (Composite.layout (List.replicate 32 9) (List.replicate 800 0))).run seededKey).state

theorem overwrittenKey_eq :
    overwrittenKey = seededKey.withParts
      ⟨some (Composite.layout (List.replicate 32 9) (List.replicate 800 0)), none,
        some ⟨.x25519, List.replicate 32 9, none⟩⟩ := by
  have accepted := Algorithm.x25519Mlkem512_acceptsPublic
    (show (List.replicate 32 9).length = 32 from List.length_replicate)
    (show (List.replicate 800 0).length = 800 from List.length_replicate)
  have read : seededKey.algorithm.readPublic
      (Composite.layout (List.replicate 32 9) (List.replicate 800 0)) = .ok _ :=
    Algorithm.readPublic_eq_ok_iff.2 ⟨accepted, rfl⟩
  have part : Composite.classicalPart 32
      (Composite.layout (List.replicate 32 9) (List.replicate 800 0)) = List.replicate 32 9 :=
    Composite.classicalPart_layout List.length_replicate _
  have room : Memory.addressable.grants ParameterName.encodedPublicKey
      (Composite.layout (List.replicate 32 9) (List.replicate 800 0)).length = true := by
    rw [accepted.length]
    rfl
  rw [overwrittenKey, run_replacePublicKey, read]
  dsimp only
  rw [if_pos room, ← part]
  rfl

/-- The handle of the key has another public key than the seed, and no scalar.  A generation takes the seed
all the same. -/
theorem regenerated_overwrittenKey :
    let outcome := (generate .addressable Algorithm.zeroDraw).run overwrittenKey
    overwrittenKey.classical = some ⟨.x25519, List.replicate 32 9, none⟩ ∧
      overwrittenKey.MadeWith (some Algorithm.x25519Handle) ∧
      overwrittenKey.algorithm.GrantsKeygen .addressable ∧
      overwrittenKey.algorithm.DeclaredLengths Algorithm.zeroDraw ∧
      outcome.result = .ok () ∧
      outcome.state.publicKey = some
        (Composite.layout Algorithm.x25519Handle.publicKey (List.replicate 800 0)) ∧
      outcome.state.privateKey = some
        ⟨Composite.layout (List.replicate 32 1) (List.replicate 1632 0)⟩ ∧
      outcome.state.classical = some Algorithm.x25519Handle := by
  intro outcome
  have handle : overwrittenKey.classical = some ⟨.x25519, List.replicate 32 9, none⟩ := by
    rw [overwrittenKey_eq]
    rfl
  have algorithm : overwrittenKey.algorithm = Algorithm.x25519Mlkem512 := by
    rw [overwrittenKey_eq]
    rfl
  have madeWith : overwrittenKey.MadeWith (some Algorithm.x25519Handle) :=
    ⟨seededKey, origin_seededKey, .single (.direct .addressable (.replacePublicKey _) rfl)⟩
  have granted : overwrittenKey.algorithm.GrantsKeygen .addressable := by
    rw [algorithm]
    exact Algorithm.x25519Mlkem512_grantsKeygen
  have declared : overwrittenKey.algorithm.DeclaredLengths Algorithm.zeroDraw := by
    rw [algorithm]
    exact ⟨List.length_replicate, List.length_replicate⟩
  have reachable : overwrittenKey.Reachable := reachable_iff_exists_madeWith.2 ⟨_, madeWith⟩
  obtain ⟨succeeds, left⟩ := (reachable.regenerated granted declared).2 _ madeWith
  obtain ⟨classical, scalar, seeded, -, -, holds, -, publicPart, privatePart, classicalPart⟩ :=
    left.hybrid .x25519 (by rw [algorithm]; rfl)
  obtain rfl := seeded _ rfl
  obtain rfl : List.replicate 32 1 = scalar := Option.some.inj holds
  exact ⟨handle, madeWith, granted, declared, succeeds, publicPart, privatePart, classicalPart⟩

end HybridKeys.Key
