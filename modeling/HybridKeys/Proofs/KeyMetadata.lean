/-
Module: HybridKeys.Proofs.KeyMetadata
Purpose: What a key is never changes, and its property query is the one that it was given last.
Main exports: Key.Inquiry, Adapter.Inquiry, Key.Use, Use.run_cases, Use.query?,
  Change.propertyQuery_of_ok, Change.propertyQuery_of_error, Key.Given, Key.Constructed, Key.Kept,
  Kept.step, kept_of_history
-/
import HybridKeys.Proofs.CallHistories
import HybridKeys.Proofs.FirstParameters
import HybridKeys.Proofs.InterruptedCalls

namespace HybridKeys

/-!
Whatever a host does with a key, it either asks the key something or makes one of the calls that change
keys; an adapter hands on what it is given, and whose adapter it is makes no difference.  Of the changes
only two have to do with the property query, and setting it is the last thing that either does.  So a call
that fails has not set it, even where it has replaced the parts already, and the history of the query is
the history of the successful calls that have one.
-/

/-! ### Asking a key -/

namespace Key

variable {σ : Type}

/-- Something that a key is asked.  A receiver of exported parts has a state of its own. -/
inductive Inquiry : Type 1 where
  | has (selection : Selection)
  | compare (other : Key) (selection : Selection)
  | comparedBy (other : Key) (selection : Selection)
  | exportParts {τ α : Type} (selection : Selection) (own : τ)
      (receiver : ParameterSet → Action τ α)
  | getParameters (request : ParameterSet)

/-- Ask a key, and take no note of the answer. -/
def Inquiry.ask (key : Key) : Inquiry → Action σ Unit
  | .has selection => do let _ ← key.has selection
  | .compare other selection => do let _ ← key.compare other selection
  | .comparedBy other selection => do let _ ← other.compare key selection
  | .exportParts selection own receiver => do
      let _ ← Action.within own (key.exportParts selection receiver)
  | .getParameters request => do let _ ← Action.within request key.getParameters

theorem Inquiry.reads (inquiry : Inquiry) (key : Key) : (inquiry.ask key : Action σ Unit).Reads := by
  cases inquiry with
  | has selection => exact .bind (.bind (.emit _) fun _ => .pure _) fun _ => .pure _
  | compare other selection => exact .bind (.bind (.emit _) fun _ => .pure _) fun _ => .pure _
  | comparedBy other selection => exact .bind (.bind (.emit _) fun _ => .pure _) fun _ => .pure _
  | exportParts selection own receiver => exact .bind (.within _ _) fun _ => .pure _
  | getParameters request => exact .bind (.within _ _) fun _ => .pure _

end Key

namespace Adapter

variable {σ : Type}

/-- Something that an adapter is asked about the key behind a handle.  The key that it is compared with
may be absent. -/
inductive Inquiry : Type 1 where
  | has (selection : Selection)
  | compare (other : Option Key) (selection : Selection)
  | comparedBy (other : Option Key) (selection : Selection)
  | exportParts {τ α : Type} (selection : Selection) (own : τ)
      (receiver : ParameterSet → Action τ α)
  | getParameters (request : ParameterSet)

/-- Ask an adapter, and take no note of the answer. -/
def Inquiry.ask (adapter : Adapter) (handle : Option Key) : Inquiry → Action σ Unit
  | .has selection => do let _ ← adapter.has handle selection
  | .compare other selection => do let _ ← adapter.compare handle other selection
  | .comparedBy other selection => do let _ ← adapter.compare other handle selection
  | .exportParts selection own receiver => do
      let _ ← Action.within own (adapter.exportParts handle selection receiver)
  | .getParameters request => do let _ ← Action.within request (adapter.getParameters handle)

theorem reads_has (adapter : Adapter) (handle : Option Key) (selection : Selection) :
    (adapter.has handle selection : Action σ Bool).Reads := by
  cases handle with
  | none => exact .pure _
  | some key => exact .bind (.emit _) fun _ => .pure _

theorem reads_compare (adapter : Adapter) (handle other : Option Key) (selection : Selection) :
    (adapter.compare handle other selection : Action σ Bool).Reads := by
  cases handle with
  | none => exact .pure _
  | some key =>
      cases other with
      | none => exact .pure _
      | some other => exact .bind (.emit _) fun _ => .pure _

theorem Inquiry.reads (inquiry : Inquiry) (adapter : Adapter) (handle : Option Key) :
    (inquiry.ask adapter handle : Action σ Unit).Reads := by
  cases inquiry with
  | has selection => exact .bind (adapter.reads_has handle selection) fun _ => .pure _
  | compare other selection =>
      exact .bind (adapter.reads_compare handle other selection) fun _ => .pure _
  | comparedBy other selection =>
      exact .bind (adapter.reads_compare other handle selection) fun _ => .pure _
  | exportParts selection own receiver => exact .bind (.within _ _) fun _ => .pure _
  | getParameters request => exact .bind (.within _ _) fun _ => .pure _

end Adapter

namespace Key

/-! ### Calls -/

/-- A call that concerns a key that a host holds, directly or through any adapter.  A change comes with the
memory that it finds. -/
inductive Use : Type 1 where
  | direct (memory : Memory) (change : Change)
  | adapted (memory : Memory) (adapter : Adapter) (change : Adapter.Change)
  | ask (inquiry : Inquiry)
  | askAdapter (adapter : Adapter) (inquiry : Adapter.Inquiry)
  | load (adapter : Adapter)

/-- What a call does to the handle with the key.  A key that is taken out of its handle goes into another
one. -/
def Use.action : Use → Action (Option Key) Unit
  | .direct memory change => (change.action memory).onHandle "key"
  | .adapted memory adapter change => change.action adapter memory
  | .ask inquiry => Action.onHandle "key" do inquiry.ask (← Action.get)
  | .askAdapter adapter inquiry => do inquiry.ask adapter (← Action.get)
  | .load adapter => do
      let key ← adapter.load
      Action.update fun _ => some key

/-- The change that a call asks for, if it asks for one. -/
def Use.change? : Use → Option Change
  | .direct _ change => some change
  | .adapted _ _ change => some change.handedOn
  | .ask _ => none
  | .askAdapter _ _ => none
  | .load _ => none

/-- A call ends as the change ends that it asks for, and without one it leaves the key as it is. -/
theorem Use.run_cases (use : Use) (key : Key) :
    (∃ memory change, use.change? = some change ∧
      (use.action.run (some key)).result = ((change.action memory).run key).result ∧
      (use.action.run (some key)).state = some ((change.action memory).run key).state) ∨
    (use.change? = none ∧ (use.action.run (some key)).state = some key) := by
  cases use with
  | direct memory change => exact .inl ⟨memory, change, rfl, rfl, rfl⟩
  | adapted memory adapter change =>
      exact .inl ⟨memory, change.handedOn, rfl, Adapter.Change.run_some adapter memory change key⟩
  | ask inquiry =>
      have reads : (do inquiry.ask (← Action.get) : Action Key Unit).Reads :=
        .bind .get inquiry.reads
      exact .inr ⟨rfl, congrArg some (reads key)⟩
  | askAdapter adapter inquiry =>
      have reads : (Use.askAdapter adapter inquiry).action.Reads :=
        .bind .get (inquiry.reads adapter)
      exact .inr ⟨rfl, reads (some key)⟩
  | load adapter => exact .inr ⟨rfl, rfl⟩

/-! ### The property query -/

/-- The property query that a change sets when it succeeds, if it sets any. -/
def Change.query? : Change → Option (Option String)
  | .generate _ => none
  | .importParts _ _ => none
  | .replacePublicKey _ => none
  | .setParameters set =>
      (set.first? Parameter.Value.utf8? ParameterName.properties).map some
  | .setPropertyQuery query => some query

/-- The property query that a call sets when it succeeds, if it sets any. -/
def Use.query? (use : Use) : Option (Option String) :=
  use.change?.bind Change.query?

section Changes

variable {memory : Memory} {key : Key}

theorem propertyQuery_replacePublicKey (bytes : Bytes) (key : Key) :
    ((replacePublicKey memory bytes).run key).state.propertyQuery = key.propertyQuery := by
  rw [run_replacePublicKey]
  cases key.algorithm.readPublic bytes with
  | error e => rfl
  | ok classical =>
      dsimp only
      split <;> rfl

theorem propertyQuery_replaceIfGiven (encoded : Option Bytes) (key : Key) :
    ((replaceIfGiven memory encoded).run key).state.propertyQuery = key.propertyQuery := by
  cases encoded with
  | none => rfl
  | some bytes => exact propertyQuery_replacePublicKey bytes key

theorem propertyQuery_setPropertyQuery {query : Option String} {u : Unit}
    (done : ((setPropertyQuery memory query).run key).result = .ok u) :
    ((setPropertyQuery memory query).run key).state.propertyQuery = query := by
  rw [run_setPropertyQuery] at done ⊢
  split at done
  case isTrue granted => rw [if_pos granted]
  case isFalse => cases done

theorem propertyQuery_queryIfGiven {properties : Option String} {u : Unit}
    (done : ((queryIfGiven memory properties).run key).result = .ok u) :
    ((queryIfGiven memory properties).run key).state.propertyQuery =
      (properties.map some).getD key.propertyQuery := by
  cases properties with
  | none => rfl
  | some query => exact propertyQuery_setPropertyQuery done

/-- Parameters that could be set have left their first property query behind, if they had one. -/
theorem propertyQuery_setParameters {set : ParameterSet} {u : Unit}
    (done : ((setParameters memory set).run key).result = .ok u) :
    ((setParameters memory set).run key).state.propertyQuery =
      ((set.first? Parameter.Value.utf8? ParameterName.properties).map some).getD
        key.propertyQuery := by
  rcases setParameters_cases memory set key with
    ⟨e, unread⟩ | ⟨encoded, properties, encodedRead, propertiesRead⟩
  · rw [unread] at done
    cases done
  · obtain ⟨-, rfl⟩ := ParameterSet.readText_eq_ok_iff.1 propertiesRead
    rw [run_setParameters_of_read encodedRead propertiesRead] at done ⊢
    rcases Action.run_bind_cases (replaceIfGiven memory encoded) (fun _ => queryIfGiven memory _) key
      with ⟨e, -, failed, -⟩ | ⟨_, -, result, left⟩
    · cases done.symm.trans failed
    · have query := propertyQuery_queryIfGiven (result.symm.trans done)
      rw [propertyQuery_replaceIfGiven] at query
      exact (congrArg propertyQuery left).trans query

/-- A change that succeeds leaves the property query that it sets, or else the one that it found. -/
theorem Change.propertyQuery_of_ok {change : Change} {u : Unit}
    (done : ((change.action memory).run key).result = .ok u) :
    ((change.action memory).run key).state.propertyQuery =
      change.query?.getD key.propertyQuery := by
  cases change with
  | generate draw =>
      simp only [Change.action, run_generate]
      cases key.algorithm.keygen memory key.seed draw <;> rfl
  | importParts selection set =>
      simp only [Change.action, run_importParts]
      cases Parts.read memory key.algorithm selection set <;> rfl
  | replacePublicKey bytes => exact propertyQuery_replacePublicKey bytes key
  | setParameters set => exact propertyQuery_setParameters done
  | setPropertyQuery query => exact propertyQuery_setPropertyQuery done

/-- A change that fails leaves the property query that it found, even where it stops halfway. -/
theorem Change.propertyQuery_of_error {change : Change} {e : Error}
    (failed : ((change.action memory).run key).result = .error e) :
    ((change.action memory).run key).state.propertyQuery = key.propertyQuery := by
  rcases unchanged_or_stopsHalfway failed with unchanged | stops
  · rw [unchanged]
  · obtain ⟨-, -, -, kept⟩ := stops.loses
    have same : _ = (key.withParts _).propertyQuery := congrArg propertyQuery kept
    exact same

end Changes

/-! ### Histories -/

/-- All that a key is given when it is made, apart from its parts. -/
structure Given where
  provider : Provider
  name : String
  keyClass : KeyClass
  groupName : Option String
  seed : Option ClassicalKey
  query : Option String

/-- What a generation gives to the keys that it makes. -/
def Given.ofGeneration (generation : Generation) : Given :=
  ⟨generation.provider, generation.algorithm, generation.keyClass, generation.groupName, none,
    generation.propertyQuery⟩

/-- The ways to make a key.  Where it is made, the state of the host does not matter. -/
inductive Constructed : Given → Key → Prop where
  | new {memory : Memory} {provider : Provider} {name : String} {seed : Option ClassicalKey}
      {keyClass : KeyClass} {query : Option String} {key : Key}
      (made : ((new memory provider name seed keyClass query : Action Unit Key).run ()).result =
        .ok key) : Constructed ⟨provider, name, keyClass, none, seed, query⟩ key
  | generation {memory : Memory} {generation : Generation} {draw : Draw} {key : Key}
      (made : ((generation.generate memory draw : Action Unit Key).run ()).result = .ok key) :
      Constructed (.ofGeneration generation) key
  | emptyKey {memory : Memory} {adapter : Adapter} {key : Key}
      (made : ((adapter.emptyKey memory : Action Unit Key).run ()).result = .ok key) :
      Constructed ⟨adapter.provider, adapter.descriptor.algorithm, adapter.descriptor.keyClass, none,
        none, none⟩ key
  | adapterGeneration {memory : Memory} {adapter : Adapter} {generation : Generation} {draw : Draw}
      {key : Key}
      (made : ((adapter.generate memory (some generation) draw : Action Unit Key).run ()).result =
        .ok key) : Constructed (.ofGeneration generation) key

/-- A key still is what it was made as, and has the property query that it was given last. -/
structure Kept (given : Given) (entries : List (Entry Use Unit)) (key : Key) : Prop where
  provider : key.provider = given.provider
  algorithm : Registry.resolve given.name given.keyClass = .ok key.algorithm
  groupName : key.groupName = given.groupName
  seed : key.seed = given.seed
  propertyQuery : Latest Use.query? given.query entries key.propertyQuery

theorem kept_of_create {memory : Memory} {provider : Provider} {name : String} {seed : Option ClassicalKey}
    {keyClass : KeyClass} {query : Option String} {key : Key}
    (created : create memory provider name seed keyClass query = .ok key) :
    Kept ⟨provider, name, keyClass, none, seed, query⟩ [] key := by
  obtain ⟨a, resolved, -, -, rfl⟩ := create_eq_ok_iff.1 created
  exact ⟨rfl, resolved, rfl, rfl, .nil⟩

theorem kept_of_generation {memory : Memory} {generation : Generation} {draw : Draw} {key : Key}
    (made : ((generation.generate memory draw : Action Unit Key).run ()).result = .ok key) :
    Kept (.ofGeneration generation) [] key := by
  obtain ⟨empty, parts, created, -, rfl⟩ := exists_created_of_generation () made
  have kept := kept_of_create created
  exact ⟨kept.provider, kept.algorithm, rfl, kept.seed, kept.propertyQuery⟩

theorem Constructed.kept {given : Given} {key : Key} (constructed : Constructed given key) :
    Kept given [] key := by
  cases constructed with
  | new made =>
      rw [result_new] at made
      exact kept_of_create made
  | generation made => exact kept_of_generation made
  | emptyKey made =>
      rw [Adapter.emptyKey, result_new] at made
      exact kept_of_create made
  | adapterGeneration made => exact kept_of_generation made

/-- Every call, whatever comes of it, leaves a key that is kept by the history with that call. -/
theorem Kept.step {given : Given} {entries : List (Entry Use Unit)} {key : Key}
    (kept : Kept given entries key) (use : Use) :
    ∃ after, (use.action.run (some key)).state = some after ∧
      Kept given (entries ++ [⟨use, (use.action.run (some key)).result⟩]) after := by
  rcases use.run_cases key with ⟨memory, change, asked, result, state⟩ | ⟨quiet, state⟩
  · refine ⟨((change.action memory).run key).state, state, ?_⟩
    obtain ⟨provider, algorithm, groupName, seed⟩ := (Step.direct memory change rfl).identity
    have sets : use.query? = change.query? := by rw [Use.query?, asked, Option.bind_some]
    have propertyQuery : Latest Use.query? given.query
        (entries ++ [⟨use, (use.action.run (some key)).result⟩])
        ((change.action memory).run key).state.propertyQuery := by
      -- The history passes over a change that fails, and so it must not have set the query.
      cases ended : ((change.action memory).run key).result with
      | error e =>
          rw [Change.propertyQuery_of_error ended]
          exact kept.propertyQuery.of_failed (result.trans ended)
      | ok u =>
          rw [Change.propertyQuery_of_ok ended, ← sets]
          exact kept.propertyQuery.done ⟨u, result.trans ended⟩
    exact ⟨provider.trans kept.provider, by rw [algorithm, kept.algorithm],
      groupName.trans kept.groupName, seed.trans kept.seed, propertyQuery⟩
  · have silent : use.query? = none := by rw [Use.query?, quiet, Option.bind_none]
    exact ⟨key, state, kept.provider, kept.algorithm, kept.groupName, kept.seed,
      kept.propertyQuery.quiet fun _ => silent⟩

/-- A history of calls leaves a key that is kept by it. -/
theorem Constructed.kept_of_calls {given : Given} {origin : Key} {entries : List (Entry Use Unit)}
    {handle : Option Key} (constructed : Constructed given origin)
    (history : Action.History Use.action (some origin) entries handle) :
    ∃ key, handle = some key ∧ Kept given entries key := by
  induction history with
  | start => exact ⟨origin, rfl, constructed.kept⟩
  | call _ next inductionHypothesis =>
      obtain ⟨key, rfl, kept⟩ := inductionHypothesis
      exact kept.step next

/-- A call that asks for no change leaves the key as it is. -/
theorem Use.state_eq_of_quiet {use : Use} (quiet : use.change? = none) (key : Key) :
    (use.action.run (some key)).state = some key := by
  rcases use.run_cases key with ⟨_, change, asked, -⟩ | ⟨-, state⟩
  · rw [quiet] at asked
    cases asked
  · exact state

/-- At every point of its history a key has the provider, the algorithm, the class, the group and the seed
that it was made with.  Its property query is the one of the latest successful call that set any, or else
the one that it was made with, and where that is none the query of its own provider is in force.  A call
that has no query to set keeps the one that there is, whatever it does to the parts, and asking the key,
directly or through an adapter, changes nothing at all. -/
theorem kept_of_history {given : Given} {origin : Key} {entries : List (Entry Use Unit)}
    {handle : Option Key} (constructed : Constructed given origin)
    (history : Action.History Use.action (some origin) entries handle) :
    ∃ key, handle = some key ∧ Kept given entries key ∧
      key.queryInForce = (key.propertyQuery <|> given.provider.propertyQuery) ∧
      (∀ use : Use, use.query? = none → ∃ after,
        (use.action.run handle).state = some after ∧ after.propertyQuery = key.propertyQuery) ∧
      (∀ inquiry, ((Use.ask inquiry).action.run handle).state = handle) ∧
      ∀ adapter inquiry, ((Use.askAdapter adapter inquiry).action.run handle).state = handle := by
  obtain ⟨key, rfl, kept⟩ := constructed.kept_of_calls history
  refine ⟨key, rfl, kept, by rw [queryInForce, kept.provider], ?_, ?_, ?_⟩
  · intro use silent
    obtain ⟨after, state, still⟩ := kept.step use
    refine ⟨after, state, still.propertyQuery.unique ?_⟩
    exact kept.propertyQuery.quiet fun _ => silent
  · intro inquiry
    exact Use.state_eq_of_quiet rfl key
  · intro adapter inquiry
    exact Use.state_eq_of_quiet rfl key

/-- A query is taken back, an adapter of another algorithm and another provider refuses to set a new one,
and takes the key out of its handle.  In force is the query of the provider of the key. -/
theorem kept_x25519Mlkem512 :
    let given : Given :=
      ⟨{ propertyQuery := some "provider=one" }, "mlkem512", .ecxHybridKem, none, none,
        some "fips=yes"⟩
    let adapter : Adapter :=
      ⟨{ propertyQuery := some "provider=two" }, ⟨"mlkem768", "mlkem768", .kem⟩,
        ⟨"mlkem768", .kem, .mlkem768⟩⟩
    let uses : List Use :=
      [.direct .addressable (.setPropertyQuery none),
        .adapted .addressable adapter (.setParameters
          ⟨[⟨ParameterName.encodedPublicKey, .octets [], false⟩,
            ⟨ParameterName.properties, .utf8 "fips=no", false⟩]⟩),
        .load adapter]
    ∃ origin entries key, Constructed given origin ∧
      Action.History Use.action (some origin) entries (some key) ∧
      entries.map Entry.call = uses ∧ key.algorithm = .x25519Mlkem512 ∧ key.propertyQuery = none ∧
      key.queryInForce = some "provider=one" := by
  intro given adapter uses
  let origin : Key :=
    ⟨given.provider, .x25519Mlkem512, none, none, none, none, none, some "fips=yes"⟩
  have constructed : Constructed given origin := by
    have made : ((new .addressable given.provider given.name given.seed given.keyClass given.query :
        Action Unit Key).run ()).result = .ok origin := by
      rw [result_new]
      exact create_eq_ok_iff.2
        ⟨_, Algorithm.resolve_x25519Mlkem512, by simp [given], by decide, rfl⟩
    exact .new made
  let entries : List (Entry Use Unit) :=
    [⟨uses[0], .ok ()⟩,
      ⟨uses[1], .error (.mismatchedLength ParameterName.encodedPublicKey 836 0)⟩,
      ⟨uses[2], .ok ()⟩]
  have history : Action.History Use.action (some origin) entries _ :=
    ((Action.History.start.call uses[0]).call uses[1]).call uses[2]
  have latest : Latest Use.query? given.query entries none :=
    ((Latest.nil.done ⟨(), rfl⟩).of_failed rfl).done ⟨(), rfl⟩
  obtain ⟨key, same, kept, inForce, -⟩ := kept_of_history constructed history
  have query : key.propertyQuery = none := kept.propertyQuery.unique latest
  rw [same] at history
  refine ⟨origin, entries, key, constructed, history, rfl, ?_, query, ?_⟩
  · exact (Except.ok.inj (Algorithm.resolve_x25519Mlkem512.symm.trans kept.algorithm)).symm
  · rw [inForce, query]
    rfl

end Key

end HybridKeys
