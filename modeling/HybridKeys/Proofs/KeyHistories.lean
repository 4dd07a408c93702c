/-
Module: HybridKeys.Proofs.KeyHistories
Purpose: The keys that a host can come by, and the few effects that everything it does to them comes
  down to.
Main exports: Action.Causes, Key.Effect, Key.Step, Key.Reachable, Key.Fresh, Change.causes,
  Step.effects, Effect.step, Reachable.effectInduction
-/
import HybridKeys.Proofs.EncodedKeys
import HybridKeys.Proofs.FailedCalls
import HybridKeys.Proofs.RegistrySearch

namespace HybridKeys

/-!
A host makes a key empty or by a generation, and then calls it in any order, directly or behind the
handle of an adapter, with or without success.  What such a history does to the key is a sequence of
four effects: the parts are generated, imported or replaced by a public key, or the property query is
set.  An invariant of keys is shown for a fresh key and for each effect.
-/

namespace Action

variable {σ α β : Type} {effect : σ → σ → Prop}

/-- However the operation ends, it moves the state by effects only. -/
def Causes (effect : σ → σ → Prop) (action : Action σ α) : Prop :=
  ∀ state, Relation.ReflTransGen effect state (action.run state).state

namespace Causes

theorem of_reads {action : Action σ α} (reads : action.Reads) : action.Causes effect := by
  intro state
  rw [reads state]

theorem bind {first : Action σ α} {next : α → Action σ β} (one : first.Causes effect)
    (rest : ∀ value, (next value).Causes effect) : (first >>= next).Causes effect := by
  intro state
  rcases run_bind_cases first next state with ⟨_, -, -, left⟩ | ⟨value, -, -, left⟩
  · rw [left]
    exact one state
  · rw [left]
    exact (one state).trans (rest value _)

theorem mapError {action : Action σ α} (causes : action.Causes effect) (change : Error → Error) :
    (action.mapError change).Causes effect :=
  causes

end Causes

end Action

namespace Key

/-! ### Effects -/

/-- What a successful call does to a key. -/
inductive Effect : Key → Key → Prop where
  | generated {memory : Memory} {key : Key} {made : GeneratedKey} (draw : Draw)
      (done : key.algorithm.keygen memory key.seed draw = .ok made) :
      Effect key (key.withGenerated made)
  | imported {memory : Memory} {key : Key} {parts : Parts} (selection : Selection)
      (set : ParameterSet) (read : Parts.read memory key.algorithm selection set = .ok parts) :
      Effect key (key.withParts parts)
  | replaced {memory : Memory} {key : Key} {classical : Option ClassicalKey} (bytes : Bytes)
      (read : key.algorithm.readPublic bytes = .ok classical)
      (granted : memory.grants ParameterName.encodedPublicKey bytes.length = true) :
      Effect key (key.withParts ⟨some bytes, none, classical⟩)
  | queried {memory : Memory} (key : Key) (query : Option String)
      (granted : memory.grantsText "property query" query = true) :
      Effect key { key with propertyQuery := query }

/-- No effect touches what a key is, only what it holds. -/
theorem Effect.identity {before after : Key} (effect : Effect before after) :
    after.provider = before.provider ∧ after.algorithm = before.algorithm ∧
      after.groupName = before.groupName ∧ after.seed = before.seed := by
  cases effect <;> exact ⟨rfl, rfl, rfl, rfl⟩

section Causes

variable (memory : Memory)

theorem causes_generate (draw : Draw) : (generate memory draw).Causes Effect := by
  intro key
  rw [run_generate]
  cases done : key.algorithm.keygen memory key.seed draw with
  | error e => exact .refl
  | ok made => exact .single (.generated draw done)

theorem causes_importParts (selection : Selection) (set : ParameterSet) :
    (importParts memory selection set).Causes Effect := by
  intro key
  rw [run_importParts]
  cases read : Parts.read memory key.algorithm selection set with
  | error e => exact .refl
  | ok parts => exact .single (.imported selection set read)

theorem causes_replacePublicKey (bytes : Bytes) :
    (replacePublicKey memory bytes).Causes Effect := by
  intro key
  rw [run_replacePublicKey]
  cases read : key.algorithm.readPublic bytes with
  | error e => exact .refl
  | ok classical =>
      dsimp only
      split
      case isTrue granted => exact .single (.replaced bytes read granted)
      case isFalse => exact .refl

theorem causes_setPropertyQuery (query : Option String) :
    (setPropertyQuery memory query).Causes Effect := by
  intro key
  rw [run_setPropertyQuery]
  split
  case isTrue granted => exact .single (.queried key query granted)
  case isFalse => exact .refl

/-- Setting parameters replaces the public key, sets the query, does both or does neither. -/
theorem causes_setParameters (set : ParameterSet) : (setParameters memory set).Causes Effect := by
  rw [setParameters_eq]
  refine .bind (.of_reads .get) fun key => ?_
  refine .bind (.of_reads (.emit _)) fun _ => ?_
  refine .bind (.of_reads (.liftM _)) fun encoded => ?_
  refine .bind (.of_reads (.liftM _)) fun properties => ?_
  refine .bind ?_ fun _ => ?_
  · cases encoded with
    | none => exact .of_reads (.pure ())
    | some bytes => exact (causes_replacePublicKey memory bytes).mapError _
  · cases properties with
    | none => exact .of_reads (.pure ())
    | some query => exact causes_setPropertyQuery memory (some query)

/-- Every call that changes a key comes down to effects, whatever memory it finds. -/
theorem Change.causes (change : Change) : (change.action memory).Causes Effect := by
  cases change with
  | generate draw => exact causes_generate memory draw
  | importParts selection set => exact causes_importParts memory selection set
  | replacePublicKey bytes => exact causes_replacePublicKey memory bytes
  | setParameters set => exact causes_setParameters memory set
  | setPropertyQuery query => exact causes_setPropertyQuery memory query

end Causes

/-! ### Steps -/

/-- One thing that a host does with a key that it has.  Each call finds memory of its own. -/
inductive Step : Key → Key → Prop where
  /-- It calls the key itself. -/
  | direct {key after : Key} (memory : Memory) (change : Change)
      (left : ((change.action memory).run key).state = after) : Step key after
  /-- It calls an adapter on a handle with the key. -/
  | adapted {key after : Key} (memory : Memory) (adapter : Adapter) (change : Adapter.Change)
      (left : ((change.action adapter memory).run (some key)).state = some after) : Step key after
  /-- It has an adapter take the key out of a handle. -/
  | load {key after : Key} (adapter : Adapter)
      (loaded : (adapter.load.run (some key)).result = .ok after) : Step key after

/-- A step comes down to effects, whether its call succeeds or fails. -/
theorem Step.effects {key after : Key} (step : Step key after) :
    Relation.ReflTransGen Effect key after := by
  cases step with
  | direct memory change left =>
      rw [← left]
      exact change.causes memory key
  | adapted memory adapter change left =>
      cases change with
      | importParts selection set =>
          cases left
          exact causes_importParts memory selection set key
      | setParameters set =>
          cases left
          exact causes_setParameters memory set key
  | load adapter loaded =>
      cases loaded
      exact .refl

/-- No step touches what a key is. -/
theorem Step.identity {before after : Key} (step : Step before after) :
    after.provider = before.provider ∧ after.algorithm = before.algorithm ∧
      after.groupName = before.groupName ∧ after.seed = before.seed := by
  have effects := step.effects
  clear step
  induction effects with
  | refl => exact ⟨rfl, rfl, rfl, rfl⟩
  | tail _ effect inductionHypothesis =>
      obtain ⟨provider, algorithm, groupName, seed⟩ := inductionHypothesis
      obtain ⟨sameProvider, sameAlgorithm, sameGroupName, sameSeed⟩ := effect.identity
      exact ⟨sameProvider.trans provider, sameAlgorithm.trans algorithm,
        sameGroupName.trans groupName, sameSeed.trans seed⟩

/-- Each effect is that of a call. -/
theorem Effect.step {key after : Key} (effect : Effect key after) : Step key after := by
  cases effect with
  | @generated memory _ _ draw done =>
      apply Step.direct memory (.generate draw)
      simp only [Change.action, run_generate, done]
  | @imported memory _ _ selection set read =>
      apply Step.direct memory (.importParts selection set)
      simp only [Change.action, run_importParts, read]
  | @replaced memory _ _ bytes read granted =>
      apply Step.direct memory (.replacePublicKey bytes)
      simp only [Change.action, run_replacePublicKey, read, granted, if_true]
  | @queried memory _ query granted =>
      apply Step.direct memory (.setPropertyQuery query)
      simp only [Change.action, run_setPropertyQuery, granted, if_true]

/-! ### Histories -/

/-- The keys that a host can come by.  Where a key is made, the state of the host does not matter. -/
inductive Reachable : Key → Prop where
  | new {memory : Memory} {provider : Provider} {name : String} {seed : Option ClassicalKey}
      {keyClass : KeyClass} {query : Option String} {key : Key}
      (seedMade : ∀ handle, seed = some handle → handle.Made)
      (made : ((new memory provider name seed keyClass query : Action Unit Key).run ()).result =
        .ok key) : Reachable key
  | generation {memory : Memory} {generation : Generation} {draw : Draw} {key : Key}
      (made : ((generation.generate memory draw : Action Unit Key).run ()).result = .ok key) :
      Reachable key
  | emptyKey {memory : Memory} {adapter : Adapter} {key : Key}
      (made : ((adapter.emptyKey memory : Action Unit Key).run ()).result = .ok key) : Reachable key
  | adapterGeneration {memory : Memory} {adapter : Adapter} {generation : Option Generation}
      {draw : Draw} {key : Key}
      (made : ((adapter.generate memory generation draw : Action Unit Key).run ()).result =
        .ok key) : Reachable key
  | step {key after : Key} (reachable : Reachable key) (step : Step key after) : Reachable after

/-- A key as it is made: it holds no part, and its seed fits its algorithm. -/
structure Fresh (key : Key) : Prop where
  parts : key.publicKey = none ∧ key.privateKey = none ∧ key.classical = none
  seedFits : key.algorithm.SeedFits key.seed

theorem checkSeed_eq_ok_iff {a : Algorithm} {seed : ClassicalKey} {u : Unit} :
    checkSeed a seed = .ok u ↔ a.curve = some seed.curve ∧ seed.hasPrivate = true := by
  simp [checkSeed, Check.bind_eq_ok_iff]

section Origins

variable {σ : Type} {memory : Memory} {provider : Provider} {name : String}
  {seed : Option ClassicalKey} {keyClass : KeyClass} {query : Option String}

/-- A key is made without parts for a registered name, if its seed fits the algorithm of the name and there
is memory for its property query. -/
theorem create_eq_ok_iff {key : Key} :
    create memory provider name seed keyClass query = .ok key ↔
      ∃ a, Registry.resolve name keyClass = .ok a ∧
        (∀ handle, seed = some handle →
          a.curve = some handle.curve ∧ handle.hasPrivate = true) ∧
        memory.grantsText "property query" query = true ∧
        key = ⟨provider, a, none, none, none, none, seed, query⟩ := by
  have finish {a : Algorithm} {seed : Option ClassicalKey} :
      (Check.textGiven memory "property query" query >>= fun query =>
        (pure ⟨provider, a, none, none, none, none, seed, query⟩ : Except Error Key)) = .ok key ↔
      memory.grantsText "property query" query = true ∧
        key = ⟨provider, a, none, none, none, none, seed, query⟩ := by
    rw [Check.textGiven_eq]
    cases memory.grantsText "property query" query with
    | false => simp [bind, Except.bind]
    | true => simp [bind, Except.bind, pure, Except.pure, eq_comm]
  rw [create, Check.bind_eq_ok_iff]
  refine exists_congr fun a => and_congr_right fun _ => ?_
  cases seed with
  | none => simpa using finish
  | some handle =>
      rw [Check.bind_eq_ok_iff]
      constructor
      · intro created
        rcases created with ⟨_, checked, rest⟩
        refine ⟨?_, finish.1 rest⟩
        rintro _ ⟨⟩
        exact checkSeed_eq_ok_iff.1 checked
      · intro conditions
        rcases conditions with ⟨fits, rest⟩
        exact ⟨(), checkSeed_eq_ok_iff.2 (fits handle rfl), finish.2 rest⟩

/-- What is made without parts is fresh, if its seed is a handle that a host can come by. -/
theorem fresh_of_create {key : Key} (seedMade : ∀ handle, seed = some handle → handle.Made)
    (created : create memory provider name seed keyClass query = .ok key) : key.Fresh := by
  obtain ⟨a, -, fits, -, rfl⟩ := create_eq_ok_iff.1 created
  refine ⟨⟨rfl, rfl, rfl⟩, ?_⟩
  intro handle given
  obtain ⟨onCurve, holds⟩ := fits handle given
  exact ⟨onCurve, holds, (seedMade handle given).sound⟩

theorem result_new (state : σ) :
    ((new memory provider name seed keyClass query : Action σ Key).run state).result =
      create memory provider name seed keyClass query := by
  rw [run_new]

/-- A generation makes a key without parts and without a seed, names its group, and hands it out with what
a key generation made for it. -/
theorem exists_created_of_generation {generation : Generation} {draw : Draw} {key : Key} (state : σ)
    (done : ((generation.generate memory draw : Action σ Key).run state).result = .ok key) :
    ∃ (empty : Key) (made : GeneratedKey),
      create memory generation.provider generation.algorithm none generation.keyClass
        generation.propertyQuery = .ok empty ∧
      empty.algorithm.keygen memory empty.seed draw = .ok made ∧
      key = ({ empty with groupName := generation.groupName } : Key).withGenerated made := by
  rw [Generation.run_generate] at done
  cases resolved : Registry.resolve generation.algorithm generation.keyClass with
  | error e =>
      rw [resolved] at done
      cases done
  | ok a =>
      rw [resolved] at done
      dsimp only at done
      split at done
      case isFalse => cases done
      case isTrue granted =>
          cases generated : a.keygen memory none draw with
          | error e =>
              rw [generated] at done
              cases done
          | ok made =>
              rw [generated] at done
              cases done
              exact ⟨_, made, create_eq_ok_iff.2 ⟨a, resolved, by simp, granted, rfl⟩, generated, rfl⟩

/-- What a generation hands out is a fresh key with what a key generation without a seed made. -/
theorem exists_fresh_of_generation {generation : Generation} {draw : Draw} {key : Key} (state : σ)
    (done : ((generation.generate memory draw : Action σ Key).run state).result = .ok key) :
    ∃ (origin : Key) (made : GeneratedKey), origin.Fresh ∧
      origin.algorithm.keygen memory origin.seed draw = .ok made ∧
      key = origin.withGenerated made := by
  obtain ⟨empty, made, created, generated, rfl⟩ := exists_created_of_generation state done
  have fresh := fresh_of_create (by simp) created
  exact ⟨{ empty with groupName := generation.groupName }, made, ⟨fresh.parts, fresh.seedFits⟩,
    generated, rfl⟩

end Origins

/-- The induction over the history of a key.  A key starts fresh, or with what a generation put into a
fresh one; then it goes on from effect to effect. -/
theorem Reachable.effectInduction {motive : Key → Prop} {key : Key}
    (fresh : ∀ origin : Key, origin.Fresh → motive origin)
    (generated : ∀ (memory : Memory) (origin : Key) (draw : Draw) (made : GeneratedKey),
      origin.Fresh → origin.algorithm.keygen memory origin.seed draw = .ok made →
        motive (origin.withGenerated made))
    (effect : ∀ before after : Key, before.Reachable → Effect before after → motive before →
      motive after)
    (reachable : key.Reachable) : motive key := by
  induction reachable with
  | new seedMade made =>
      rw [result_new] at made
      exact fresh _ (fresh_of_create seedMade made)
  | generation made =>
      obtain ⟨origin, made, isFresh, done, rfl⟩ := exists_fresh_of_generation () made
      exact generated _ origin _ _ isFresh done
  | emptyKey made =>
      rw [Adapter.emptyKey, result_new] at made
      exact fresh _ (fresh_of_create (by simp) made)
  | @adapterGeneration _ _ generation _ _ made =>
      cases generation with
      | none => cases made
      | some generation =>
          obtain ⟨origin, made, isFresh, done, rfl⟩ := exists_fresh_of_generation () made
          exact generated _ origin _ _ isFresh done
  | @step key _ before step inductionHypothesis =>
      -- The intermediate keys of one call are reachable too, each by a call of its own.
      have walk : ∀ {last : Key}, Relation.ReflTransGen Effect key last →
          last.Reachable ∧ motive last := by
        intro last effects
        induction effects with
        | refl => exact ⟨before, inductionHypothesis⟩
        | tail _ next reached =>
            exact ⟨reached.1.step next.step, effect _ _ reached.1 next reached.2⟩
      exact (walk step.effects).2

/-! ### Keys to start from -/

/-- The key that is made for an algorithm without a seed and without settings. -/
def withoutParts (a : Algorithm) : Key where
  provider := {}
  algorithm := a
  groupName := none
  publicKey := none
  privateKey := none
  classical := none
  seed := none
  propertyQuery := none

theorem reachable_withoutParts {a : Algorithm}
    (registered : ⟨a.name, a.primitive⟩ ∈ Registry.entries)
    (family : a.primitive.family = a.keyClass.family) : (withoutParts a).Reachable := by
  have made : ((new .addressable {} a.name none a.keyClass none : Action Unit Key).run ()).result =
      .ok (withoutParts a) := by
    rw [result_new, create, Registry.resolve_eq_ok_iff.2 ⟨registered, family, rfl, rfl⟩]
    rfl
  exact .new (by simp) made

end Key

namespace Algorithm

/-- A small hybrid algorithm under one of its registered names. -/
def x25519Mlkem512 : Algorithm := ⟨"mlkem512", .ecxHybridKem, .mlkem512⟩

theorem resolve_x25519Mlkem512 : Registry.resolve "mlkem512" .ecxHybridKem = .ok x25519Mlkem512 :=
  Registry.resolve_eq_ok_iff.2 ⟨by decide, rfl, rfl, rfl⟩

/-- Any bytes of the right length are an X25519 key, public or private. -/
theorem x25519Mlkem512_acceptsPublic {classical pq : Bytes} (classicalLength : classical.length = 32)
    (pqLength : pq.length = 800) :
    x25519Mlkem512.AcceptsPublic (Composite.layout classical pq) := by
  have isPublic : Curve.x25519.IsPublic classical := ⟨classicalLength, rfl⟩
  exact acceptsPublic_layout rfl isPublic pqLength

theorem x25519Mlkem512_acceptsPrivate {classical pq : Bytes}
    (classicalLength : classical.length = 32) (pqLength : pq.length = 1632) :
    x25519Mlkem512.AcceptsPrivate (Composite.layout classical pq) := by
  have isPrivate : Curve.x25519.IsPrivate classical := ⟨classicalLength, rfl⟩
  exact acceptsPrivate_layout rfl isPrivate pqLength

end Algorithm

/-- What a host finds when it makes a key of the hybrid algorithm. -/
theorem Key.reachable_x25519Mlkem512 : (withoutParts .x25519Mlkem512).Reachable :=
  reachable_withoutParts (by decide) rfl

end HybridKeys
