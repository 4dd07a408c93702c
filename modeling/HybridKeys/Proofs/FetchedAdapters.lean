/-
Module: HybridKeys.Proofs.FetchedAdapters
Purpose: An adapter that could be fetched makes keys, and where there is memory nothing but the library
  can keep it from that.
Main exports: Algorithm.LibraryDecides, Algorithm.libraryDecides_keygen, Adapter.Serves,
  Adapter.fetch_succeeds_iff, Adapter.Owns, Adapter.Pending, Adapter.afterSettings, Adapter.MakesKeys,
  makesKeys_of_fetch, makesKeys_x25519Mlkem512
-/
import HybridKeys.Proofs.Regeneration

namespace HybridKeys

/-!
On the way from the name of an adapter to a key the algorithm is looked up again and again: when the
adapter is fetched, when a generation is started, and whenever a key is made.  Each time it is the same
name and class, so what could be found once is found always.  What is left that can fail is the allocator and
the library.  Where there is memory it is the library alone: it is asked for a key pair, and it may come
back with keys of other lengths than it declares.
-/

/-! ### Generations of a registered algorithm -/

/-- When the library is asked with buffers of the declared lengths and answers with keys of others, the
buffers are not written. -/
theorem Primitive.exec_fillBuffers_of_undeclared {τ : Type} {p : Primitive}
    {library : τ → KeyPair × τ} {buffers : KeyPair} {random : τ}
    (publicBuffer : buffers.publicKey.length = p.publicKeyLength)
    (secretBuffer : buffers.secretKey.length = p.secretKeyLength)
    (undeclared : ¬ ((library random).1.publicKey.length = p.publicKeyLength ∧
      (library random).1.secretKey.length = p.secretKeyLength)) :
    (p.fillBuffers library).exec (buffers, random) =
      .error (.generationFailure p.name "primitive returned keys of unexpected length") := by
  simp [Action.exec, run_fillBuffers, publicBuffer, secretBuffer, undeclared, Except.map]

namespace Algorithm

variable {a : Algorithm} {memory : Memory} {given : Option ClassicalKey} {draw : Draw} {α β : Type}

/-- How something ends that the library alone can make fail: with an answer as it should be when the
library's keys have their declared lengths, and else with the one error that tells of that. -/
inductive LibraryDecides (a : Algorithm) (draw : Draw) (Good : α → Prop) :
    Except Error α → Prop where
  | made {answer : α} (declared : a.DeclaredLengths draw) (good : Good answer) :
      LibraryDecides a draw Good (.ok answer)
  | refused (undeclared : ¬ a.DeclaredLengths draw) :
      LibraryDecides a draw Good
        (.error (.generationFailure a.primitive.name
          "primitive returned keys of unexpected length"))

/-- The answer may be made into another. -/
theorem LibraryDecides.map {Good : α → Prop} {Better : β → Prop} {result : Except Error α}
    (decides : a.LibraryDecides draw Good result) {change : α → β}
    (improves : ∀ answer, Good answer → Better (change answer)) :
    a.LibraryDecides draw Better (result.map change) := by
  cases decides with
  | made declared good => exact .made declared (improves _ good)
  | refused undeclared => exact .refused undeclared

theorem LibraryDecides.exists_of_declared {Good : α → Prop} {result : Except Error α}
    (decides : a.LibraryDecides draw Good result) (declared : a.DeclaredLengths draw) :
    ∃ answer, result = .ok answer ∧ Good answer := by
  cases decides with
  | made _ good => exact ⟨_, rfl, good⟩
  | refused undeclared => exact absurd declared undeclared

section Granted

variable (granted : a.GrantsKeygen memory)
include granted

theorem drawKeyPair_of_undeclared (undeclared : ¬ a.DeclaredLengths draw) :
    a.drawKeyPair memory draw = .error (.generationFailure a.primitive.name
      "primitive returned keys of unexpected length") := by
  let buffers : KeyPair := ⟨List.replicate a.primitive.publicKeyLength 0,
    List.replicate a.primitive.secretKeyLength 0⟩
  have refused : (a.primitive.fillBuffers fun random => (draw.keyPair, random)).exec (buffers, ()) =
      .error (.generationFailure a.primitive.name
        "primitive returned keys of unexpected length") := by
    apply Primitive.exec_fillBuffers_of_undeclared List.length_replicate List.length_replicate
    exact fun declared => undeclared ⟨declared.1, declared.2⟩
  rw [drawKeyPair, Check.allocate_eq, Secret.zeroed_eq, if_pos granted.publicBuffer,
    if_pos granted.secretBuffer]
  refine Check.bind_eq_error_iff.2 (.inr ⟨_, rfl, ?_⟩)
  refine Check.bind_eq_error_iff.2 (.inr ⟨_, rfl, ?_⟩)
  exact Check.bind_eq_error_iff.2 (.inl refused)

/-- A key generation with memory for its buffers makes keys of the lengths of the algorithm, unless the
library fails it.  A classical key that it is given has the scalar and the curve that it asks for. -/
theorem libraryDecides_keygen (fits : a.SeedFits given) (draw : Draw) :
    a.LibraryDecides draw
      (fun made => made.publicKey.length = a.publicKeyLength ∧
        made.privateKey.length = a.privateKeyLength) (a.keygen memory given draw) := by
  by_cases declared : a.DeclaredLengths draw
  -- With keys of the declared lengths nothing is left to fail: the scalar is there, and all lengths fit.
  · have succeeds : ∃ made, a.keygen memory given draw = .ok made := by
      cases hybrid : a.curve with
      | none => exact ⟨_, keygen_of_plain granted declared hybrid⟩
      | some curve =>
          obtain ⟨sound, onCurve⟩ := sound_classicalSource hybrid fits draw
          obtain ⟨scalar, holds⟩ := Key.exists_scalar_of_classicalSource fits draw
          exact ⟨_, keygen_of_own_curve granted declared hybrid sound onCurve holds⟩
    obtain ⟨made, generated⟩ := succeeds
    have wellFormed := (generates_of_keygen fits generated).wellFormed
    rw [generated]
    exact .made declared ⟨wellFormed.publicLength, wellFormed.privateLength⟩
  · have refused : a.keygen memory given draw = .error (.generationFailure a.primitive.name
        "primitive returned keys of unexpected length") :=
      Check.bind_eq_error_iff.2 (.inl (drawKeyPair_of_undeclared granted declared))
    rw [refused]
    exact .refused declared

end Granted

end Algorithm

namespace Adapter

variable {σ : Type}

/-! ### Adapters that can be fetched -/

/-- The adapter is the one of the name, and its algorithm is what its descriptor stands for. -/
structure Serves (adapter : Adapter) (provider : Provider) (name : String) : Prop where
  provider : adapter.provider = provider
  listed : adapter.descriptor ∈ table
  named : adapter.descriptor.name = name
  resolved : Registry.resolve adapter.descriptor.algorithm adapter.descriptor.keyClass =
    .ok adapter.algorithm

/-- A fetch finds the first row of the name, and looks up what the row stands for. -/
theorem result_fetch (provider : Provider) (name : String) (state : σ) :
    ((fetch provider name : Action σ Adapter).run state).result =
      match table.find? fun d => d.name = name with
      | none => .error (.unknownAlgorithm name)
      | some d => (Registry.resolve d.algorithm d.keyClass).map fun a => ⟨provider, d, a⟩ := by
  rw [fetch, Action.run_emit_bind]
  cases table.find? fun d => d.name = name with
  | none => rfl
  | some d =>
      dsimp only
      cases Registry.resolve d.algorithm d.keyClass <;> rfl

theorem serves_of_fetch {provider : Provider} {name : String} {adapter : Adapter} {state : σ}
    (fetched : ((fetch provider name : Action σ Adapter).run state).result = .ok adapter) :
    adapter.Serves provider name := by
  rw [result_fetch] at fetched
  cases found : table.find? fun d => d.name = name with
  | none =>
      rw [found] at fetched
      cases fetched
  | some d =>
      have named : d.name = name := by simpa using List.find?_some found
      rw [found] at fetched
      dsimp only at fetched
      cases resolved : Registry.resolve d.algorithm d.keyClass with
      | error e =>
          rw [resolved] at fetched
          cases fetched
      | ok a =>
          rw [resolved] at fetched
          cases fetched
          exact ⟨rfl, List.mem_of_find?_eq_some found, named, resolved⟩

/-- Every row of the table of adapters names an entry of the registry, for a class of its family. -/
theorem listed_registered : ∀ d ∈ table, ∃ entry ∈ Registry.entries,
    entry.name = d.algorithm ∧ entry.primitive.family = d.keyClass.family := by
  decide +kernel

/-- The names that can be fetched are those of the table. -/
theorem fetch_succeeds_iff {provider : Provider} {name : String} {state : σ} :
    (∃ adapter, ((fetch provider name : Action σ Adapter).run state).result = .ok adapter) ↔
      ∃ d ∈ table, d.name = name := by
  constructor
  · intro succeeds
    obtain ⟨adapter, fetched⟩ := succeeds
    have serves := serves_of_fetch fetched
    exact ⟨adapter.descriptor, serves.listed, serves.named⟩
  · intro listed
    obtain ⟨d, member, named⟩ := listed
    rw [result_fetch]
    cases found : table.find? fun d => d.name = name with
    | none =>
        have absent := List.find?_eq_none.1 found d member
        simp [named] at absent
    | some first =>
        obtain ⟨entry, registered, same, family⟩ :=
          listed_registered first (List.mem_of_find?_eq_some found)
        have resolved : Registry.resolve first.algorithm first.keyClass =
            .ok ⟨first.algorithm, first.keyClass, entry.primitive⟩ :=
          Registry.resolve_eq_ok_iff.2 ⟨same ▸ registered, family, rfl, rfl⟩
        dsimp only
        rw [resolved]
        exact ⟨_, rfl⟩

/-! ### Keys of an adapter -/

/-- The key has the provider and the algorithm of the adapter, and it was made without a seed. -/
structure Owns (adapter : Adapter) (key : Key) : Prop where
  provider : key.provider = adapter.provider
  algorithm : key.algorithm = adapter.algorithm
  seed : key.seed = none

/-- Nothing that is done to a key takes it away from its adapter. -/
theorem Owns.steps {adapter : Adapter} {key after : Key} (owns : adapter.Owns key)
    (steps : Relation.ReflTransGen Key.Step key after) : adapter.Owns after := by
  induction steps with
  | refl => exact owns
  | tail _ step inductionHypothesis =>
      obtain ⟨provider, algorithm, -, seed⟩ := step.identity
      exact ⟨provider.trans inductionHypothesis.provider,
        algorithm.trans inductionHypothesis.algorithm, seed.trans inductionHypothesis.seed⟩

/-- The key is one of the adapter, and holds both parts in the lengths that the adapter declares. -/
structure Completes (adapter : Adapter) (key : Key) : Prop where
  owns : adapter.Owns key
  publicKey : key.publicKey.map List.length = some adapter.algorithm.publicKeyLength
  privateKey : key.privateKey.map Secret.length = some adapter.algorithm.privateKeyLength

theorem Owns.completes {adapter : Adapter} {key : Key} (owns : adapter.Owns key)
    {made : GeneratedKey} (lengths : made.publicKey.length = adapter.algorithm.publicKeyLength ∧
      made.privateKey.length = adapter.algorithm.privateKeyLength) :
    adapter.Completes (key.withGenerated made) where
  owns := ⟨owns.provider, owns.algorithm, owns.seed⟩
  publicKey := congrArg some lengths.1
  privateKey := congrArg some lengths.2

/-- With memory for the buffers the library alone decides whether a key of the adapter is given new
parts. -/
theorem Owns.libraryDecides_generate {adapter : Adapter} {key : Key} (owns : adapter.Owns key)
    {memory : Memory} (granted : adapter.algorithm.GrantsKeygen memory) (draw : Draw) :
    adapter.algorithm.LibraryDecides draw adapter.Completes
      ((Key.generate memory draw).exec key) := by
  have fits : adapter.algorithm.SeedFits key.seed := by
    rw [owns.seed]
    exact Algorithm.seedFits_none
  have outcome : (Key.generate memory draw).exec key =
      (adapter.algorithm.keygen memory key.seed draw).map key.withGenerated := by
    rw [Action.exec, Key.run_generate, owns.algorithm]
    cases adapter.algorithm.keygen memory key.seed draw <;> rfl
  rw [outcome]
  exact (Algorithm.libraryDecides_keygen granted fits draw).map fun _ => owns.completes

/-! ### Generations of an adapter -/

/-- The generation has the provider of the adapter, the name and the class of its descriptor, and the
selection that it was started with. -/
structure Pending (adapter : Adapter) (selection : Selection) (generation : Generation) : Prop where
  provider : generation.provider = adapter.provider
  algorithm : generation.algorithm = adapter.descriptor.algorithm
  keyClass : generation.keyClass = adapter.descriptor.keyClass
  selection : generation.selection = selection

/-- A setting, whether it is taken over or refused, is about the group and the property query alone. -/
theorem Pending.setParameters {adapter : Adapter} {selection : Selection} {generation : Generation}
    (pending : adapter.Pending selection generation) (memory : Memory) (set : ParameterSet) :
    adapter.Pending selection ((Generation.setParameters memory set).run generation).state := by
  rw [Generation.run_setParameters]
  cases Generation.readSettings memory set with
  | error e => exact pending
  | ok settings =>
      exact ⟨pending.provider, pending.algorithm, pending.keyClass, pending.selection⟩

/-- The handle of a generation after settings, one after another, each with the memory that it found. -/
def afterSettings (adapter : Adapter) (generation : Generation)
    (settings : List (Memory × ParameterSet)) : Option Generation :=
  settings.foldl
    (fun handle setting => ((adapter.setGenerationParameters setting.1 setting.2).run handle).state)
    (some generation)

/-- After any settings there still is a generation of the adapter. -/
theorem Pending.afterSettings {adapter : Adapter} {selection : Selection} {generation : Generation}
    (pending : adapter.Pending selection generation) (settings : List (Memory × ParameterSet)) :
    ∃ settled, adapter.afterSettings generation settings = some settled ∧
      adapter.Pending selection settled := by
  induction settings generalizing generation with
  | nil => exact ⟨generation, rfl, pending⟩
  | cons setting later inductionHypothesis =>
      exact inductionHypothesis (pending.setParameters setting.1 setting.2)

/-! ### What a fetched adapter can do -/

/-- Empty keys and generations are always to be had.  A generation after any settings, and one more for a
key of the adapter after any steps, fails only if the library does, where there is memory for the buffers
and for a copy of the property query; else the key is complete. -/
structure MakesKeys (adapter : Adapter) : Prop where
  emptyKey : ∀ {σ : Type} (state : σ) (memory : Memory), ∃ key,
    ((adapter.emptyKey memory : Action σ Key).run state).result = .ok key ∧ adapter.Owns key ∧
      key.publicKey = none ∧ key.privateKey = none ∧ key.classical = none
  initGeneration : ∀ {σ : Type} (state : σ) (selection : Selection), ∃ generation,
    ((adapter.initGeneration selection : Action σ Generation).run state).result = .ok generation ∧
      adapter.Pending selection generation
  generate : ∀ {σ : Type} (state : σ) {selection : Selection} {generation : Generation},
    adapter.Pending selection generation →
      ∀ (settings : List (Memory × ParameterSet)) (memory : Memory),
        memory.grantsText "property query"
          ((adapter.afterSettings generation settings).bind Generation.propertyQuery) = true →
        adapter.algorithm.GrantsKeygen memory →
          ∀ draw : Draw, adapter.algorithm.LibraryDecides draw adapter.Completes
            ((adapter.generate memory (adapter.afterSettings generation settings) draw :
              Action σ Key).run state).result
  regenerate : ∀ {key after : Key}, adapter.Owns key → Relation.ReflTransGen Key.Step key after →
    ∀ memory : Memory, adapter.algorithm.GrantsKeygen memory →
      ∀ draw : Draw, adapter.algorithm.LibraryDecides draw adapter.Completes
        ((Key.generate memory draw).exec after)

section Served

variable {adapter : Adapter} {provider : Provider} {name : String}
  (serves : adapter.Serves provider name)
include serves

/-- What a generation of the adapter runs into is the algorithm of the adapter, if its property query can
be copied. -/
theorem Serves.result_generate {generation : Generation} {selection : Selection}
    (pending : adapter.Pending selection generation) {memory : Memory}
    (copied : memory.grantsText "property query" generation.propertyQuery = true) (draw : Draw)
    (state : σ) :
    ((adapter.generate memory (some generation) draw : Action σ Key).run state).result =
      (adapter.algorithm.keygen memory none draw).map
        (generation.blank adapter.algorithm).withGenerated := by
  have resolved : Registry.resolve generation.algorithm generation.keyClass =
      .ok adapter.algorithm := by
    rw [pending.algorithm, pending.keyClass, serves.resolved]
  rw [Adapter.generate, Check.present, Action.run_ok_bind, Generation.run_generate, resolved]
  dsimp only
  rw [if_pos copied]

theorem Serves.makesKeys : adapter.MakesKeys where
  emptyKey := by
    intro σ state memory
    rw [Adapter.emptyKey, Key.run_new, Key.create_unseeded, serves.resolved]
    exact ⟨_, rfl, ⟨rfl, rfl, rfl⟩, rfl, rfl, rfl⟩
  initGeneration := by
    intro σ state selection
    obtain ⟨-, -, named, -⟩ := Registry.resolve_eq_ok_iff.1 serves.resolved
    rw [Adapter.initGeneration, Generation.init, Action.run_emit_bind, serves.resolved]
    exact ⟨_, rfl, rfl, named, rfl, rfl⟩
  generate := by
    intro σ state selection generation pending settings memory copied granted draw
    obtain ⟨settled, left, stillPending⟩ := pending.afterSettings settings
    have owns : adapter.Owns (settled.blank adapter.algorithm) := ⟨stillPending.provider, rfl, rfl⟩
    rw [left, Option.bind_some] at copied
    rw [left, serves.result_generate stillPending copied]
    exact (Algorithm.libraryDecides_keygen granted Algorithm.seedFits_none draw).map
      fun _ => owns.completes
  regenerate := by
    intro key after owns steps memory granted draw
    exact (owns.steps steps).libraryDecides_generate granted draw

end Served

/-- Whoever fetched an adapter can make keys with it, of the algorithm and the class that its descriptor
names. -/
theorem makesKeys_of_fetch {provider : Provider} {name : String} {adapter : Adapter} {state : σ}
    (fetched : ((fetch provider name : Action σ Adapter).run state).result = .ok adapter) :
    adapter.Serves provider name ∧ adapter.algorithm.name = adapter.descriptor.algorithm ∧
      adapter.algorithm.keyClass = adapter.descriptor.keyClass ∧ adapter.MakesKeys := by
  have serves := serves_of_fetch fetched
  obtain ⟨-, -, named, classed⟩ := Registry.resolve_eq_ok_iff.1 serves.resolved
  exact ⟨serves, named, classed, serves.makesKeys⟩

/-- A generation through the adapter of a hybrid algorithm, after a setting that was taken over and two
that were refused, one of them for want of memory, makes a complete key. -/
theorem makesKeys_x25519Mlkem512 :
    let adapter : Adapter :=
      ⟨{}, ⟨"x25519_mlkem512", "mlkem512", .ecxHybridKem⟩, .x25519Mlkem512⟩
    let settings : List (Memory × ParameterSet) :=
      [(.addressable, ⟨[⟨ParameterName.group, .utf8 "X25519MLKEM512", false⟩]⟩),
        (.addressable, ⟨[⟨ParameterName.properties, .int 1, false⟩]⟩),
        (.exhaustedFor ParameterName.properties,
          ⟨[⟨ParameterName.properties, .utf8 "fips=yes", false⟩]⟩)]
    ((fetch {} "x25519_mlkem512" : Action Unit Adapter).run ()).result = .ok adapter ∧
      ∃ generation key,
        ((adapter.initGeneration .keyPair : Action Unit Generation).run ()).result =
          .ok generation ∧
        ((adapter.generate .addressable (adapter.afterSettings generation settings)
          Algorithm.zeroDraw : Action Unit Key).run ()).result = .ok key ∧
        adapter.Completes key := by
  intro adapter settings
  have found : table.find? (fun d => d.name = "x25519_mlkem512") = some adapter.descriptor := by
    decide +kernel
  have resolved : Registry.resolve "mlkem512" .ecxHybridKem = .ok Algorithm.x25519Mlkem512 :=
    Registry.resolve_eq_ok_iff.2 ⟨by decide, rfl, rfl, rfl⟩
  have fetched : ((fetch {} "x25519_mlkem512" : Action Unit Adapter).run ()).result =
      .ok adapter := by
    rw [result_fetch, found]
    dsimp only
    rw [resolved]
    rfl
  obtain ⟨-, -, -, makesKeys⟩ := makesKeys_of_fetch fetched
  let generation : Generation := ⟨{}, "mlkem512", .ecxHybridKem, .keyPair, none, none⟩
  have started : ((adapter.initGeneration .keyPair : Action Unit Generation).run ()).result =
      .ok generation := by
    rw [initGeneration, Generation.init, Action.run_emit_bind, resolved]
    rfl
  have pending : adapter.Pending .keyPair generation := ⟨rfl, rfl, rfl, rfl⟩
  have copied : Memory.addressable.grantsText "property query"
      ((adapter.afterSettings generation settings).bind Generation.propertyQuery) = true := rfl
  obtain ⟨key, made, completes⟩ :=
    (makesKeys.generate () pending settings .addressable copied
      Algorithm.x25519Mlkem512_grantsKeygen Algorithm.zeroDraw).exists_of_declared
        (Algorithm.declaredLengths_zeroDraw rfl)
  exact ⟨fetched, generation, key, started, made, completes⟩

end Adapter

end HybridKeys
