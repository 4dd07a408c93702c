/-
Module: HybridKeys.Proofs.GenerationSettings
Purpose: A pending generation holds what the latest successful settings gave it, and every key that it
  makes is made with that.
Main exports: Generation.Fits, Generation.GrantsTexts, readSettings_eq_ok_iff, Generation.withSettings,
  Generation.Call, Generation.Use, Use.text?, Generation.Settled, Generation.Yields, Settled.step,
  settled_of_history
-/
import HybridKeys.Proofs.CallHistories
import HybridKeys.Proofs.FetchedAdapters
import HybridKeys.Proofs.FirstParameters

namespace HybridKeys

/-!
A generation has two settings, the group and the property query, and they come from the same calls.  A
call that has one of them leaves the other as it is; a call that has a bad one, or one that cannot be
copied, leaves both as they are, however good the other may be.  So each of the two can be followed by
itself: only the calls that succeeded count, and of these only the ones that have it.
-/

namespace Generation

variable {σ : Type} {generation : Generation} {memory : Memory} {set : ParameterSet}

/-! ### One setting -/

/-- The first parameters for the two settings are texts, where there are any. -/
structure Fits (set : ParameterSet) : Prop where
  group : set.FirstFits Parameter.Value.utf8? ParameterName.group
  properties : set.FirstFits Parameter.Value.utf8? ParameterName.properties

/-- The generation with the settings that a set has, and with its own where the set has none. -/
def withSettings (generation : Generation) (set : ParameterSet) : Generation :=
  { generation with
    groupName := set.first? Parameter.Value.utf8? ParameterName.group <|> generation.groupName
    propertyQuery :=
      set.first? Parameter.Value.utf8? ParameterName.properties <|> generation.propertyQuery }

/-- There is memory for a copy of each text that a set has for a setting. -/
structure GrantsTexts (memory : Memory) (set : ParameterSet) : Prop where
  group : memory.grantsText ParameterName.group
    (set.first? Parameter.Value.utf8? ParameterName.group) = true
  properties : memory.grantsText ParameterName.properties
    (set.first? Parameter.Value.utf8? ParameterName.properties) = true

/-- Settings are read exactly when they are texts that can be copied. -/
theorem readSettings_eq_ok_iff {settings : Option String × Option String} :
    readSettings memory set = .ok settings ↔
      Fits set ∧ GrantsTexts memory set ∧
        settings = (set.first? Parameter.Value.utf8? ParameterName.group,
          set.first? Parameter.Value.utf8? ParameterName.properties) := by
  simp only [readSettings, Check.bind_eq_ok_iff, ParameterSet.readText_eq_ok_iff, Check.textGiven_eq,
    Check.granted_eq_ok_iff]
  constructor
  · intro read
    rcases read with ⟨_, ⟨group, rfl⟩, _, ⟨groupRoom, rfl⟩, _, ⟨properties, rfl⟩, _,
      ⟨propertiesRoom, rfl⟩, ⟨⟩⟩
    exact ⟨⟨group, properties⟩, ⟨groupRoom, propertiesRoom⟩, rfl⟩
  · intro conditions
    rcases conditions with ⟨fits, granted, rfl⟩
    exact ⟨_, ⟨fits.group, rfl⟩, _, ⟨granted.group, rfl⟩, _, ⟨fits.properties, rfl⟩, _,
      ⟨granted.properties, rfl⟩, rfl⟩

theorem run_setParameters_of_accepted (fits : Fits set) (granted : GrantsTexts memory set)
    (generation : Generation) :
    (setParameters memory set).run generation =
      ⟨.ok (), generation.withSettings set, [.generationSetParameters generation.algorithm]⟩ := by
  rw [run_setParameters, readSettings_eq_ok_iff.2 ⟨fits, granted, rfl⟩]
  rfl

/-- Both texts are read and copied before one is taken over, so a bad one keeps the other out too. -/
theorem run_setParameters_of_refused (refused : ¬ (Fits set ∧ GrantsTexts memory set))
    (generation : Generation) :
    ∃ e, (setParameters memory set).run generation =
      ⟨.error e, generation, [.generationSetParameters generation.algorithm]⟩ := by
  rw [run_setParameters]
  cases read : readSettings memory set with
  | error e => exact ⟨e, rfl⟩
  | ok settings =>
      obtain ⟨fits, granted, -⟩ := readSettings_eq_ok_iff.1 read
      exact absurd ⟨fits, granted⟩ refused

/-! ### Calls -/

/-- A call to a pending generation, with all that it is given. -/
inductive Call where
  | setParameters (set : ParameterSet)
  | generate (draw : Draw)

/-- What a call does, and the key that it answers with, if it makes one. -/
def Call.action (memory : Memory) : Call → Action Generation (Option Key)
  | .setParameters set => do
      Generation.setParameters memory set
      return none
  | .generate draw => do
      let generation ← Action.get
      return some (← generation.generate memory draw)

/-- What a call to an adapter does with the generation behind a handle. -/
def Call.adapted (adapter : Adapter) (memory : Memory) : Call → Action (Option Generation) (Option Key)
  | .setParameters set => do
      adapter.setGenerationParameters memory set
      return none
  | .generate draw => do
      let handle ← Action.get
      return some (← adapter.generate memory handle draw)

/-- A call with the way that it is made, on the generation itself or through an adapter, and with the
memory that it finds. -/
structure Use where
  through : Option Adapter
  memory : Memory
  call : Call

/-- What a call does to the generation that a host holds. -/
def Use.action (use : Use) : Action (Option Generation) (Option Key) :=
  match use.through with
  | none => (use.call.action use.memory).onHandle "generation"
  | some adapter => use.call.adapted adapter use.memory

/-- The text that a call gives for a setting, if it gives any. -/
def Use.text? (name : String) (use : Use) : Option (Option String) :=
  match use.call with
  | .setParameters set => (set.first? Parameter.Value.utf8? name).map some
  | .generate _ => none

/-- Adapters hand their calls on to the generation. -/
theorem Use.run_some (use : Use) (generation : Generation) :
    (use.action.run (some generation)).result =
        ((use.call.action use.memory).run generation).result ∧
      (use.action.run (some generation)).state =
        some ((use.call.action use.memory).run generation).state := by
  rcases use with ⟨through, memory, call⟩
  cases through with
  | none => exact ⟨rfl, rfl⟩
  | some adapter =>
      cases call with
      | setParameters set =>
          simp only [action, Call.action, Call.adapted, Action.run_bind_pure]
          exact ⟨rfl, rfl⟩
      | generate draw =>
          have reads := generation.reads_generate memory draw generation
          have readsHandle := generation.reads_generate memory draw (some generation)
          simp only [action, Call.action, Call.adapted, Action.run_get_bind, Action.run_bind_pure,
            Adapter.generate, Check.present, Action.run_ok_bind, reads, readsHandle, and_true]
          rw [run_generate, run_generate]
          cases Registry.resolve generation.algorithm generation.keyClass with
          | error e => rfl
          | ok algorithm =>
              dsimp only
              split <;> rfl

theorem Use.run_of_accepted (fits : Fits set) (granted : GrantsTexts memory set)
    (through : Option Adapter) (generation : Generation) :
    let outcome := (Use.action ⟨through, memory, .setParameters set⟩).run (some generation)
    outcome.result = .ok none ∧ outcome.state = some (generation.withSettings set) := by
  intro outcome
  obtain ⟨result, state⟩ := Use.run_some ⟨through, memory, .setParameters set⟩ generation
  rw [result, state, Call.action,
    Action.run_bind_ok (run_setParameters_of_accepted fits granted generation)]
  exact ⟨rfl, rfl⟩

theorem Use.run_of_refused (refused : ¬ (Fits set ∧ GrantsTexts memory set))
    (through : Option Adapter) (generation : Generation) :
    let outcome := (Use.action ⟨through, memory, .setParameters set⟩).run (some generation)
    (∃ e, outcome.result = .error e) ∧ outcome.state = some generation := by
  intro outcome
  obtain ⟨result, state⟩ := Use.run_some ⟨through, memory, .setParameters set⟩ generation
  obtain ⟨e, failed⟩ := run_setParameters_of_refused refused generation
  rw [result, state, Call.action, Action.run_bind_error failed]
  exact ⟨⟨e, rfl⟩, rfl⟩

/-- A setting succeeds exactly when it fits and can be copied, and is without effect when it fails. -/
theorem Use.run_setParameters (memory : Memory) (set : ParameterSet) (through : Option Adapter)
    (generation : Generation) :
    let outcome := (Use.action ⟨through, memory, .setParameters set⟩).run (some generation)
    ((∃ answer, outcome.result = .ok answer) ↔ Fits set ∧ GrantsTexts memory set) ∧
      (¬ (Fits set ∧ GrantsTexts memory set) → outcome.state = some generation) := by
  by_cases accepted : Fits set ∧ GrantsTexts memory set
  · obtain ⟨result, -⟩ := Use.run_of_accepted accepted.1 accepted.2 through generation
    exact ⟨⟨fun _ => accepted, fun _ => ⟨none, result⟩⟩, absurd accepted⟩
  · obtain ⟨⟨e, failed⟩, kept⟩ := Use.run_of_refused accepted through generation
    refine ⟨⟨?_, fun other => absurd other accepted⟩, fun _ => kept⟩
    rintro ⟨answer, answered⟩
    rw [failed] at answered
    cases answered

theorem Use.run_generate (generation : Generation) (memory : Memory) (draw : Draw)
    (through : Option Adapter) :
    let outcome := (Use.action ⟨through, memory, .generate draw⟩).run (some generation)
    let made := (generation.generate memory draw : Action Generation Key).run generation
    outcome.result = made.result.map some ∧ outcome.state = some made.state := by
  intro outcome made
  obtain ⟨result, state⟩ := Use.run_some ⟨through, memory, .generate draw⟩ generation
  rw [result, state, Call.action, Action.run_get_bind, Action.run_bind_pure]
  exact ⟨rfl, rfl⟩

/-! ### Histories -/

/-- What a generation is after calls: as it was started, but for the settings that the calls gave it. -/
structure Settled (origin : Generation) (entries : List (Entry Use (Option Key)))
    (generation : Generation) : Prop where
  kept : generation = { origin with
    groupName := generation.groupName
    propertyQuery := generation.propertyQuery }
  groupName : Latest (Use.text? ParameterName.group) origin.groupName entries generation.groupName
  propertyQuery : Latest (Use.text? ParameterName.properties) origin.propertyQuery entries
    generation.propertyQuery

/-- Every call, whatever comes of it, leaves a generation that is settled by the history with that call. -/
theorem Settled.step {origin : Generation} {entries : List (Entry Use (Option Key))}
    (settled : Settled origin entries generation) (use : Use) :
    ∃ after, (use.action.run (some generation)).state = some after ∧
      Settled origin (entries ++ [⟨use, (use.action.run (some generation)).result⟩]) after := by
  rcases use with ⟨through, memory, call⟩
  cases call with
  | setParameters set =>
      -- What is refused leaves the generation, and then both histories go on as they were.
      by_cases accepted : Fits set ∧ GrantsTexts memory set
      · obtain ⟨result, state⟩ := Use.run_of_accepted accepted.1 accepted.2 through generation
        refine ⟨generation.withSettings set, state, ?_, ?_, ?_⟩
        · exact congrArg (withSettings · set) settled.kept
        · exact settled.groupName.overlay ⟨none, result⟩ rfl
        · exact settled.propertyQuery.overlay ⟨none, result⟩ rfl
      · obtain ⟨⟨e, failed⟩, state⟩ := Use.run_of_refused accepted through generation
        exact ⟨generation, state, settled.kept, settled.groupName.of_failed failed,
          settled.propertyQuery.of_failed failed⟩
  | generate draw =>
      obtain ⟨-, state⟩ := Use.run_generate generation memory draw through
      rw [generation.reads_generate memory draw] at state
      refine ⟨generation, state, settled.kept, ?_, ?_⟩
      · exact settled.groupName.quiet fun _ => rfl
      · exact settled.propertyQuery.quiet fun _ => rfl

/-- A history of calls leaves a generation that is settled by it. -/
theorem settled_of_calls {origin : Generation} {entries : List (Entry Use (Option Key))}
    {handle : Option Generation} (history : Action.History Use.action (some origin) entries handle) :
    ∃ generation, handle = some generation ∧ Settled origin entries generation := by
  induction history with
  | start => exact ⟨origin, rfl, rfl, .nil, .nil⟩
  | call _ next inductionHypothesis =>
      obtain ⟨generation, rfl, settled⟩ := inductionHypothesis
      exact settled.step next

/-! ### Keys -/

/-- The key is one of the algorithm with both parts, and has its settings from the generation. -/
structure Yields (generation : Generation) (algorithm : Algorithm) (key : Key) : Prop where
  provider : key.provider = generation.provider
  algorithm : key.algorithm = algorithm
  publicKey : key.publicKey.map List.length = some key.algorithm.publicKeyLength
  privateKey : key.privateKey.map Secret.length = some key.algorithm.privateKeyLength
  groupName : key.groupName = generation.groupName
  propertyQuery : key.propertyQuery = generation.propertyQuery
  queryInForce :
    key.queryInForce = (generation.propertyQuery <|> generation.provider.propertyQuery)

/-- Keys of the lengths of an algorithm make a blank key into one that the generation yields. -/
theorem yields_withGenerated {algorithm : Algorithm} (generation : Generation) {made : GeneratedKey}
    (lengths : made.publicKey.length = algorithm.publicKeyLength ∧
      made.privateKey.length = algorithm.privateKeyLength) :
    generation.Yields algorithm ((generation.blank algorithm).withGenerated made) :=
  ⟨rfl, rfl, congrArg some lengths.1, congrArg some lengths.2, rfl, rfl, rfl⟩

section Resolved

variable {algorithm : Algorithm}
  (resolved : Registry.resolve generation.algorithm generation.keyClass = .ok algorithm)
include resolved

/-- Every key that a generation makes is one that it yields. -/
theorem yields_of_generate {draw : Draw} {state : σ} {key : Key}
    (done : ((generation.generate memory draw : Action σ Key).run state).result = .ok key) :
    generation.Yields algorithm key := by
  rw [run_generate, resolved] at done
  dsimp only at done
  split at done
  case isTrue =>
    cases generated : algorithm.keygen memory none draw with
    | error e =>
        rw [generated] at done
        cases done
    | ok made =>
        rw [generated] at done
        cases done
        have wellFormed := (Algorithm.generates_of_keygen Algorithm.seedFits_none generated).wellFormed
        exact generation.yields_withGenerated ⟨wellFormed.publicLength, wellFormed.privateLength⟩
  case isFalse => cases done

/-- With memory for the buffers and for its property query a generation yields a key, unless the library
fails it. -/
theorem libraryDecides_generate
    (copied : memory.grantsText "property query" generation.propertyQuery = true)
    (granted : algorithm.GrantsKeygen memory) (draw : Draw) (state : σ) :
    algorithm.LibraryDecides draw (generation.Yields algorithm)
      ((generation.generate memory draw : Action σ Key).run state).result := by
  rw [run_generate, resolved]
  dsimp only
  rw [if_pos copied]
  exact (Algorithm.libraryDecides_keygen granted Algorithm.seedFits_none draw).map
    fun _ => generation.yields_withGenerated

end Resolved

/-- A generation starts without settings, and only for a registered algorithm. -/
theorem started_of_init {provider : Provider} {selection : Selection} {name : String}
    {keyClass : KeyClass} {origin : Generation} {state : σ}
    (started : ((init provider selection name keyClass : Action σ Generation).run state).result =
      .ok origin) :
    ∃ algorithm, Registry.resolve name keyClass = .ok algorithm ∧
      origin = ⟨provider, name, keyClass, selection, none, none⟩ := by
  rw [init, Action.run_emit_bind] at started
  cases resolved : Registry.resolve name keyClass with
  | error e =>
      rw [resolved] at started
      cases started
  | ok algorithm =>
      obtain ⟨-, -, named, -⟩ := Registry.resolve_eq_ok_iff.1 resolved
      rw [resolved, ← named] at started
      cases started
      exact ⟨algorithm, rfl, by rw [named]⟩

/-- At every point of its history a generation is as it was started, but for its group and its property
query.  Each is the first one of the latest successful setting that had any.  A setting succeeds exactly
when both first parameters are texts that can be copied, and one that fails is without effect.  Making keys
is without effect on the generation too.  Every key that it makes has both parts, the group and the
property query of the generation, and falls back on the query of the provider; and where there is memory,
only the library can keep a key from being made. -/
theorem settled_of_history {provider : Provider} {selection : Selection} {name : String}
    {keyClass : KeyClass} {origin : Generation} {state : σ} {entries : List (Entry Use (Option Key))}
    {handle : Option Generation}
    (started : ((init provider selection name keyClass : Action σ Generation).run state).result =
      .ok origin)
    (history : Action.History Use.action (some origin) entries handle) :
    ∃ algorithm group query,
      let generation : Generation := ⟨provider, name, keyClass, selection, group, query⟩
      Registry.resolve name keyClass = .ok algorithm ∧ handle = some generation ∧
      Latest (Use.text? ParameterName.group) none entries group ∧
      Latest (Use.text? ParameterName.properties) none entries query ∧
      (∀ through memory set,
        let next := (Use.action ⟨through, memory, .setParameters set⟩).run handle
        ((∃ answer, next.result = .ok answer) ↔ Fits set ∧ GrantsTexts memory set) ∧
          (¬ (Fits set ∧ GrantsTexts memory set) → next.state = handle)) ∧
      ∀ through memory draw,
        let next := (Use.action ⟨through, memory, .generate draw⟩).run handle
        let Good (answer : Option Key) : Prop :=
          ∃ key, answer = some key ∧ generation.Yields algorithm key
        next.state = handle ∧ (∀ answer, next.result = .ok answer → Good answer) ∧
          (memory.grantsText "property query" query = true → algorithm.GrantsKeygen memory →
            algorithm.LibraryDecides draw Good next.result) := by
  obtain ⟨algorithm, resolved, rfl⟩ := started_of_init started
  obtain ⟨generation, rfl, settled⟩ := settled_of_calls history
  refine ⟨algorithm, _, _, resolved, congrArg some settled.kept, settled.groupName,
    settled.propertyQuery, ?_, ?_⟩
  · intro through memory set
    exact Use.run_setParameters memory set through generation
  · intro through memory draw next Good
    obtain ⟨result, left⟩ := Use.run_generate generation memory draw through
    have found : Registry.resolve generation.algorithm generation.keyClass = .ok algorithm := by
      rw [settled.kept, resolved]
    have good {key : Key} (yields : generation.Yields algorithm key) : Good (some key) := by
      rw [settled.kept] at yields
      exact ⟨key, rfl, yields⟩
    rw [result, left, reads_generate]
    refine ⟨rfl, ?_, ?_⟩
    · intro answer answered
      obtain ⟨key, made, rfl⟩ := Check.map_eq_ok_iff.1 answered
      exact good (yields_of_generate found made)
    · intro copied granted
      exact (libraryDecides_generate found copied granted draw _).map fun _ => good

/-- A group is set, then another one together with a bad property query, then two property queries.  The
second call counts for nothing, and of the two queries the first counts. -/
theorem settled_x25519Mlkem512 :
    let adapter : Adapter :=
      ⟨{}, ⟨"mlkem768", "mlkem768", .kem⟩, ⟨"mlkem768", .kem, .mlkem768⟩⟩
    let uses : List Use :=
      [⟨none, .addressable, .setParameters
          ⟨[⟨ParameterName.group, .utf8 "X25519MLKEM512", false⟩]⟩⟩,
        ⟨some adapter, .addressable, .setParameters
          ⟨[⟨ParameterName.group, .utf8 "P256MLKEM512", false⟩,
            ⟨ParameterName.properties, .int 1, false⟩]⟩⟩,
        ⟨some adapter, .addressable, .setParameters
          ⟨[⟨ParameterName.properties, .utf8 "fips=yes", false⟩,
            ⟨ParameterName.properties, .int 1, false⟩]⟩⟩]
    ∃ origin entries handle key,
      ((init {} .publicHalf "mlkem512" .ecxHybridKem : Action Unit Generation).run ()).result =
        .ok origin ∧
      Action.History Use.action (some origin) entries handle ∧ entries.map Entry.call = uses ∧
      ((Use.action ⟨none, .addressable, .generate Algorithm.zeroDraw⟩).run handle).result =
        .ok (some key) ∧
      key.publicKey.map List.length = some 836 ∧ key.privateKey.map Secret.length = some 1668 ∧
      key.groupName = some "X25519MLKEM512" ∧ key.queryInForce = some "fips=yes" := by
  intro adapter uses
  let origin : Generation := ⟨{}, "mlkem512", .ecxHybridKem, .publicHalf, none, none⟩
  have started : ((init {} .publicHalf "mlkem512" .ecxHybridKem :
      Action Unit Generation).run ()).result = .ok origin := by
    rw [init, Action.run_emit_bind, Algorithm.resolve_x25519Mlkem512]
    rfl
  have history : Action.History Use.action (some origin)
      [⟨uses[0], .ok none⟩,
        ⟨uses[1], .error (.invalidInput ParameterName.properties "expected a UTF-8 string")⟩,
        ⟨uses[2], .ok none⟩]
      (some { origin with groupName := some "X25519MLKEM512", propertyQuery := some "fips=yes" }) :=
    ((Action.History.start.call uses[0]).call uses[1]).call uses[2]
  obtain ⟨a, group, query, found, same, -, -, -, generates⟩ := settled_of_history started history
  cases same
  cases Algorithm.resolve_x25519Mlkem512.symm.trans found
  obtain ⟨-, -, decides⟩ := generates none .addressable Algorithm.zeroDraw
  obtain ⟨_, made, key, rfl, yields⟩ :=
    (decides rfl Algorithm.x25519Mlkem512_grantsKeygen).exists_of_declared
      (Algorithm.declaredLengths_zeroDraw rfl)
  refine ⟨origin, _, _, key, started, history, rfl, made, ?_, ?_, yields.groupName,
    yields.queryInForce⟩
  · rw [yields.publicKey, yields.algorithm]
    rfl
  · rw [yields.privateKey, yields.algorithm]
    rfl

end Generation

end HybridKeys
