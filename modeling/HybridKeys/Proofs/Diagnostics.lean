/-
Module: HybridKeys.Proofs.Diagnostics
Purpose: Neither the dump of a value nor the log of a call depends on key bytes or on the values of
  parameters, but that the log of a generation tells whether there was memory for its property query.
Main exports: Secret.SameShape, ClassicalKey.SameShape, Parameter.SameShape, ParameterSet.SameShape,
  Key.SameShape, Action.Announces, Generation.startsKey, Call, Call.log, Call.startsKey, Call.Alike,
  Call.Alike.log_eq_iff, Key.SameKind.historyLog_eq, diagnostics_blind_to_secrets,
  diagnostics_of_two_private_parts, log_tells_refused_query
-/
import HybridKeys.Proofs.KeyHistories

namespace HybridKeys

/-!
What a host may write to a log is of two sorts: dumps of values, and the events of calls.  For each sort
two runs are compared.  Two values have one shape when they differ in the bytes of keys and of octet
strings at most, and then they have one dump.  Two calls are alike when they do the same thing to keys of
one kind; they may come with any bytes, parameters and property queries, each may find memory of its own,
and one may succeed where the other fails.  Their logs are equal nevertheless, since an operation
announces itself before it looks at any of that, and nothing afterwards.

A generation is made of operations, and the second one is only come to when the first has made a key.  The
first asks for memory for a copy of the property query, whose length the request shows to the allocator.
So the log of a generation tells one thing more than who was called: whether that copy could be had.
-/

/-! ### Values of one shape -/

/-- Secrets of one length. -/
def Secret.SameShape (one two : Secret) : Prop :=
  one.length = two.length

theorem Secret.SameShape.dump_eq {one two : Secret} (shape : one.SameShape two) :
    one.dump = two.dump := by
  unfold Secret.dump
  rw [shape]

/-- Handles on one curve that hold keys of the same lengths. -/
structure ClassicalKey.SameShape (one two : ClassicalKey) : Prop where
  curve : one.curve = two.curve
  publicKey : one.publicKey.length = two.publicKey.length
  privateKey : one.privateKey.map List.length = two.privateKey.map List.length

theorem ClassicalKey.SameShape.dump_eq {one two : ClassicalKey} (shape : one.SameShape two) :
    one.dump = two.dump := by
  have redacted (secret : Option Bytes) :
      secret.map (fun _ => Dump.quoted "[REDACTED]") =
        (secret.map List.length).map fun _ => Dump.quoted "[REDACTED]" := by
    rw [Option.map_map, Function.comp_def]
  rw [ClassicalKey.dump, ClassicalKey.dump, shape.curve, shape.publicKey, redacted, shape.privateKey,
    ← redacted]

/-- The private keys of a curve have handles of one shape. -/
theorem ClassicalKey.sameShape_ofScalar {curve : Curve} {scalar other : Bytes}
    (isPrivate : curve.IsPrivate scalar) (otherIsPrivate : curve.IsPrivate other) :
    (ofScalar curve scalar).SameShape (ofScalar curve other) where
  curve := rfl
  publicKey := by
    rw [ofScalar, ofScalar, (Curve.isPublic_derive isPrivate).1,
      (Curve.isPublic_derive otherIsPrivate).1]
  privateKey := by
    rw [ofScalar, ofScalar, Option.map_some, Option.map_some, isPrivate.1, otherIsPrivate.1]

namespace Parameter

/-- One value, or octet strings of one length. -/
inductive Value.SameShape : Value → Value → Prop where
  | same (value : Value) : SameShape value value
  | octets {one two : Bytes} (length : one.length = two.length) :
      SameShape (.octets one) (.octets two)

theorem Value.SameShape.dump_eq {one two : Value} (shape : one.SameShape two) :
    one.dump = two.dump := by
  cases shape with
  | same => rfl
  | octets length => rw [Value.dump, Value.dump, length]

/-- Parameters of one name and mark, with values of one shape. -/
structure SameShape (one two : Parameter) : Prop where
  name : one.name = two.name
  value : one.value.SameShape two.value
  modified : one.modified = two.modified

theorem SameShape.dump_eq {one two : Parameter} (shape : one.SameShape two) : one.dump = two.dump := by
  rw [dump, dump, shape.name, shape.value.dump_eq, shape.modified]

end Parameter

/-- Sets with parameters of the same shapes in the same places. -/
def ParameterSet.SameShape (one two : ParameterSet) : Prop :=
  List.Forall₂ Parameter.SameShape one.parameters two.parameters

theorem ParameterSet.SameShape.dump_eq {one two : ParameterSet} (shape : one.SameShape two) :
    one.dump = two.dump := by
  have dumps {parameters others : List Parameter}
      (alike : List.Forall₂ Parameter.SameShape parameters others) :
      parameters.map Parameter.dump = others.map Parameter.dump := by
    induction alike with
    | nil => rfl
    | cons first _ inductionHypothesis =>
        rw [List.map_cons, List.map_cons, first.dump_eq, inductionHypothesis]
  rw [dump, dump, dumps shape]

/-- Keys of one identity whose parts, classical key and seed are there or not alike, and of the same
lengths. -/
structure Key.SameShape (one two : Key) : Prop where
  provider : one.provider = two.provider
  algorithm : one.algorithm = two.algorithm
  groupName : one.groupName = two.groupName
  propertyQuery : one.propertyQuery = two.propertyQuery
  publicKey : one.publicKey.map List.length = two.publicKey.map List.length
  privateKey : one.privateKey.map Secret.length = two.privateKey.map Secret.length
  classical : Option.Rel ClassicalKey.SameShape one.classical two.classical
  seed : Option.Rel ClassicalKey.SameShape one.seed two.seed

theorem Key.SameShape.dump_eq {one two : Key} (shape : one.SameShape two) : one.dump = two.dump := by
  have hasPublic : one.publicKey.isSome = two.publicKey.isSome := by
    simpa using congrArg Option.isSome shape.publicKey
  have hasPrivate : one.privateKey.isSome = two.privateKey.isSome := by
    simpa using congrArg Option.isSome shape.privateKey
  rw [dump, dump, shape.algorithm, hasPublic, hasPrivate, shape.groupName, shape.propertyQuery]

/-! ### What an operation announces -/

namespace Action

variable {σ τ α β : Type} {first : Action σ α} {next : α → Action σ β} {events : List Event}

/-- The events of an operation on a state. -/
def log (action : Action σ α) (state : σ) : List Event :=
  (action.run state).events

/-- Behind a handle that is there, an operation announces what it announces by itself. -/
theorem log_onHandle_some (context : String) (action : Action σ α) (state : σ) :
    (onHandle context action).log (some state) = action.log state := by
  rw [log, log, run_onHandle_some]

/-- Behind an absent handle nothing is announced. -/
theorem log_onHandle_none (context : String) (action : Action σ α) :
    (onHandle context action).log none = [] := by
  rw [log, run_onHandle_none]

/-- An operation that has these events on every state, whether it succeeds or not. -/
def Announces (action : Action σ α) (events : List Event) : Prop :=
  ∀ state, action.log state = events

namespace Announces

theorem pure (value : α) : (Pure.pure value : Action σ α).Announces [] := fun _ => rfl

theorem liftM (result : Except Error α) : (MonadLiftT.monadLift result : Action σ α).Announces [] :=
  fun _ => rfl

theorem update (change : σ → σ) : (Action.update change).Announces [] := fun _ => rfl

theorem emit (event : Event) : (Action.emit event : Action σ Unit).Announces [event] := fun _ => rfl

/-- An operation that is followed by one without events has its events alone, even if it fails. -/
theorem bind (one : first.Announces events) (rest : ∀ value, (next value).Announces []) :
    (first >>= next).Announces events := by
  intro state
  have announced := one state
  rw [log] at announced ⊢
  rcases done : first.run state with ⟨e | value, after, own⟩
  -- A failure cuts off only what is silent.
  · rw [run_bind_error done]
    rwa [done] at announced
  · have silent : ((next value).run after).events = [] := rest value after
    rw [run_bind_ok done, silent, List.append_nil]
    rwa [done] at announced

theorem emit_bind {event : Event} {next : Unit → Action σ β} (rest : (next ()).Announces events) :
    (Action.emit event >>= next).Announces (event :: events) := by
  intro state
  rw [log, run_emit_bind]
  exact congrArg (event :: ·) (rest state)

/-- An operation that asks for the state has the events of what it does with it. -/
theorem log_get_bind {next : σ → Action σ β} {state : σ} (rest : (next state).Announces events) :
    (Action.get >>= next).log state = events := by
  rw [log, run_get_bind]
  exact rest state

theorem get_bind {next : σ → Action σ β} (rest : ∀ state, (next state).Announces events) :
    (Action.get >>= next).Announces events :=
  fun state => log_get_bind (rest state)

theorem mapError {action : Action σ α} (own : action.Announces events) (change : Error → Error) :
    (action.mapError change).Announces events :=
  own

end Announces

end Action

namespace Key

open HybridKeys.Action (Announces)

variable {σ α : Type}

theorem announces_new (memory : Memory) (provider : Provider) (name : String)
    (seed : Option ClassicalKey) (keyClass : KeyClass) (query : Option String) :
    (new memory provider name seed keyClass query : Action σ Key).Announces
      [.keyNew name keyClass] :=
  .emit_bind (.liftM _)

theorem announces_has (key : Key) (selection : Selection) :
    (key.has selection : Action σ Bool).Announces [.keyHas key.algorithm.name selection] :=
  .emit_bind (.pure _)

theorem announces_compare (key other : Key) (selection : Selection) :
    (key.compare other selection : Action σ Bool).Announces
      [.keyMatch key.algorithm.name selection] :=
  .emit_bind (.pure _)

theorem announces_free (key : Key) :
    (key.free : Action σ Unit).Announces [.keyFree key.algorithm.name] :=
  .emit _

/-- An export adds one event to those of the receiver. -/
theorem announces_exportParts (key : Key) (selection : Selection)
    {receiver : ParameterSet → Action σ α} {events : List Event}
    (deaf : ∀ set, (receiver set).Announces events) :
    (key.exportParts selection receiver).Announces
      (.keyExport key.algorithm.name selection :: events) :=
  .emit_bind (deaf _)

/-- Writing without events is what every change ends with. -/
theorem announces_commit (change : Key → Key) :
    (Action.update withoutPrivate >>= fun _ => Action.update change).Announces [] :=
  .bind (.update _) fun _ => .update _

section Changes

variable (memory : Memory)

theorem log_generate (draw : Draw) (key : Key) :
    (generate memory draw).log key = [.keyGenerate key.algorithm.name] := by
  apply Announces.log_get_bind
  apply Announces.emit_bind
  exact .bind (.liftM _) fun made => announces_commit _

theorem log_importParts (selection : Selection) (set : ParameterSet) (key : Key) :
    (importParts memory selection set).log key = [.keyImport key.algorithm.name selection] := by
  apply Announces.log_get_bind
  apply Announces.emit_bind
  exact .bind (.liftM _) fun parts => announces_commit _

theorem announces_replacePublicKey (bytes : Bytes) :
    (replacePublicKey memory bytes).Announces [] := by
  apply Announces.get_bind
  intro key
  apply Announces.bind (.liftM _)
  intro classical
  exact .bind (.liftM _) fun publicKey => announces_commit _

theorem announces_setPropertyQuery (query : Option String) :
    (setPropertyQuery memory query).Announces [] :=
  .bind (.liftM _) fun _ => .update _

theorem announces_replaceIfGiven (encoded : Option Bytes) :
    (replaceIfGiven memory encoded).Announces [] := by
  cases encoded with
  | none => exact .pure ()
  | some bytes => exact (announces_replacePublicKey memory bytes).mapError _

theorem announces_queryIfGiven (properties : Option String) :
    (queryIfGiven memory properties).Announces [] := by
  cases properties with
  | none => exact .pure ()
  | some query => exact announces_setPropertyQuery memory (some query)

theorem log_setParameters (set : ParameterSet) (key : Key) :
    (setParameters memory set).log key = [.setParameters key.algorithm.name] := by
  rw [setParameters_eq]
  apply Announces.log_get_bind
  apply Announces.emit_bind
  apply Announces.bind (.liftM _)
  intro encoded
  apply Announces.bind (.liftM _)
  intro properties
  exact .bind (announces_replaceIfGiven memory encoded) fun _ =>
    announces_queryIfGiven memory properties

end Changes

theorem announces_fillPart (name : String) (part : Option Bytes) :
    (fillPart name part).Announces [] := by
  apply Announces.get_bind
  intro set
  split
  · exact .bind (.liftM _) fun bytes => .update _
  · exact .pure ()

theorem announces_getParameters (key : Key) :
    key.getParameters.Announces [.getParameters key.algorithm.name] := by
  apply Announces.emit_bind
  apply Announces.bind (.update _)
  intro _
  apply Announces.bind (.update _)
  intro _
  apply Announces.bind (.update _)
  intro _
  apply Announces.bind (announces_fillPart _ _)
  intro _
  exact .bind (announces_fillPart _ _) fun _ => announces_fillPart _ _

end Key

namespace Generation

open HybridKeys.Action (Announces)

variable {σ : Type}

theorem announces_init (provider : Provider) (selection : Selection) (name : String)
    (keyClass : KeyClass) :
    (init provider selection name keyClass : Action σ Generation).Announces
      [.generationInit name keyClass selection] := by
  apply Announces.emit_bind
  exact .bind (.liftM _) fun algorithm => .pure _

theorem log_setParameters (memory : Memory) (set : ParameterSet) (generation : Generation) :
    (setParameters memory set).log generation =
      [.generationSetParameters generation.algorithm] := by
  apply Announces.log_get_bind
  apply Announces.emit_bind
  exact .bind (.liftM _) fun settings => .update _

/-- Whether a generation gets a key that it can fill: its algorithm is registered, and there is memory for
its property query. -/
def startsKey (generation : Generation) (memory : Memory) : Bool :=
  (Registry.resolve generation.algorithm generation.keyClass).isOk &&
    memory.grantsText "property query" generation.propertyQuery

/-- What a generation announces: itself, the new key and, if it gets one, the generation of that key. -/
def announced (generation : Generation) (memory : Memory) : List Event :=
  let begun : List Event :=
    [.generation generation.algorithm, .keyNew generation.algorithm generation.keyClass]
  if generation.startsKey memory then begun ++ [.keyGenerate generation.algorithm] else begun

theorem announces_generate (generation : Generation) (memory : Memory) (draw : Draw) :
    (generation.generate memory draw : Action σ Key).Announces (generation.announced memory) := by
  intro state
  rw [Action.log, run_generate, announced, startsKey]
  cases resolved : Registry.resolve generation.algorithm generation.keyClass with
  | error e => rfl
  | ok algorithm =>
      obtain ⟨-, -, name, -⟩ := Registry.resolve_eq_ok_iff.1 resolved
      cases memory.grantsText "property query" generation.propertyQuery with
      | false => rfl
      | true =>
          change [_, _, Event.keyGenerate algorithm.name] = _
          rw [name]
          rfl

theorem announces_cleanup (generation : Generation) :
    (generation.cleanup : Action σ Unit).Announces [.generationCleanup generation.algorithm] :=
  .emit _

end Generation

namespace Adapter

open HybridKeys.Action (Announces)

theorem log_free_some (adapter : Adapter) (key : Key) :
    adapter.free.log (some key) = [.keyFree key.algorithm.name] := rfl

theorem log_free_none (adapter : Adapter) :
    adapter.free.log none = [.nullKeyFree adapter.descriptor.name] := rfl

theorem announces_load (adapter : Adapter) :
    adapter.load.Announces [.adapterLoad adapter.descriptor.name] := by
  apply Announces.emit_bind
  apply Announces.get_bind
  intro handle
  exact .bind (.update _) fun _ => .liftM _

theorem log_cleanup_some (adapter : Adapter) (generation : Generation) :
    adapter.cleanup.log (some generation) = [.generationCleanup generation.algorithm] := rfl

theorem log_generate_none {σ : Type} (adapter : Adapter) (memory : Memory) (draw : Draw) (state : σ) :
    (adapter.generate memory none draw : Action σ Key).log state = [] := rfl

theorem log_generate_some {σ : Type} (adapter : Adapter) (memory : Memory) (generation : Generation)
    (draw : Draw) (state : σ) :
    (adapter.generate memory (some generation) draw : Action σ Key).log state =
      (generation.generate memory draw : Action σ Key).log state := rfl

theorem announces_fetch {σ : Type} (provider : Provider) (name : String) :
    (fetch provider name : Action σ Adapter).Announces [.adapterFetch name] := by
  apply Announces.emit_bind
  split
  · exact fun _ => rfl
  · exact .bind (.liftM _) fun algorithm => .pure _

end Adapter

/-! ### Calls -/

/-- A call to an adapter, with all that it is given.  The handles are as they stand before the call. -/
inductive Adapter.Call : Type 1 where
  | emptyKey
  | free (handle : Option Key)
  | load (handle : Option Key)
  | has (handle : Option Key) (selection : Selection)
  | compare (handle other : Option Key) (selection : Selection)
  | change (request : Adapter.Change) (handle : Option Key)
  | exportParts {σ α : Type} (handle : Option Key) (selection : Selection)
      (receiver : ParameterSet → Action σ α) (held : σ)
  | getParameters (handle : Option Key) (set : ParameterSet)
  | initGeneration (selection : Selection)
  | setGenerationParameters (handle : Option Generation) (set : ParameterSet)
  | generate (handle : Option Generation) (draw : Draw)
  | cleanup (handle : Option Generation)

/-- A call to a key, to a generation or to an adapter. -/
inductive Call : Type 1 where
  | newKey (provider : Provider) (name : String) (seed : Option ClassicalKey) (keyClass : KeyClass)
      (query : Option String)
  | has (key : Key) (selection : Selection)
  | compare (key other : Key) (selection : Selection)
  | change (request : Key.Change) (key : Key)
  | exportParts {σ α : Type} (key : Key) (selection : Selection)
      (receiver : ParameterSet → Action σ α) (held : σ)
  | getParameters (key : Key) (set : ParameterSet)
  | freeKey (key : Key)
  | initGeneration (provider : Provider) (selection : Selection) (name : String)
      (keyClass : KeyClass)
  | setGenerationParameters (generation : Generation) (set : ParameterSet)
  | generate (generation : Generation) (draw : Draw)
  | cleanup (generation : Generation)
  | fetch (provider : Provider) (name : String)
  | adapter (fetched : Adapter) (call : Adapter.Call)

/-- The events of a call to an adapter, with the memory that it finds. -/
def Adapter.Call.log (adapter : Adapter) (memory : Memory) : Adapter.Call → List Event
  | .emptyKey => (adapter.emptyKey memory : Action Unit Key).log ()
  | .free handle => adapter.free.log handle
  | .load handle => adapter.load.log handle
  | .has handle selection => (adapter.has handle selection : Action Unit Bool).log ()
  | .compare handle other selection =>
      (adapter.compare handle other selection : Action Unit Bool).log ()
  | .change request handle => (request.action adapter memory).log handle
  | .exportParts handle selection receiver held =>
      (adapter.exportParts handle selection receiver).log held
  | .getParameters handle set => (adapter.getParameters handle).log set
  | .initGeneration selection => (adapter.initGeneration selection : Action Unit Generation).log ()
  | .setGenerationParameters handle set => (adapter.setGenerationParameters memory set).log handle
  | .generate handle draw => (adapter.generate memory handle draw : Action Unit Key).log ()
  | .cleanup handle => adapter.cleanup.log handle

/-- The events of a call, with the memory that it finds. -/
def Call.log (memory : Memory) : Call → List Event
  | .newKey provider name seed keyClass query =>
      (Key.new memory provider name seed keyClass query : Action Unit Key).log ()
  | .has key selection => (key.has selection : Action Unit Bool).log ()
  | .compare key other selection => (key.compare other selection : Action Unit Bool).log ()
  | .change request key => (request.action memory).log key
  | .exportParts key selection receiver held => (key.exportParts selection receiver).log held
  | .getParameters key set => key.getParameters.log set
  | .freeKey key => (key.free : Action Unit Unit).log ()
  | .initGeneration provider selection name keyClass =>
      (Generation.init provider selection name keyClass : Action Unit Generation).log ()
  | .setGenerationParameters generation set =>
      (Generation.setParameters memory set).log generation
  | .generate generation draw => (generation.generate memory draw : Action Unit Key).log ()
  | .cleanup generation => (generation.cleanup : Action Unit Unit).log ()
  | .fetch provider name => (Adapter.fetch provider name : Action Unit Adapter).log ()
  | .adapter fetched call => call.log fetched memory

/-- Whether a call to an adapter runs a generation that gets a key to fill. -/
def Adapter.Call.startsKey (memory : Memory) : Adapter.Call → Bool
  | .generate (some generation) _ => generation.startsKey memory
  | _ => false

/-- Whether a call runs a generation that gets a key to fill. -/
def Call.startsKey (memory : Memory) : Call → Bool
  | .generate generation _ => generation.startsKey memory
  | .adapter _ call => call.startsKey memory
  | _ => false

/-! ### Calls that are alike -/

/-- Keys of one algorithm and class. -/
structure Key.SameKind (one two : Key) : Prop where
  name : one.algorithm.name = two.algorithm.name
  keyClass : one.algorithm.keyClass = two.algorithm.keyClass

/-- Generations of one algorithm, class and selection. -/
structure Generation.SameKind (one two : Generation) : Prop where
  algorithm : one.algorithm = two.algorithm
  keyClass : one.keyClass = two.keyClass
  selection : one.selection = two.selection

/-- Changes of one sort and selection.  The draw, the bytes and the values may be any. -/
inductive Key.Change.Alike : Key.Change → Key.Change → Prop where
  | generate (one two : Draw) : Alike (.generate one) (.generate two)
  | importParts (selection : Selection) (one two : ParameterSet) :
      Alike (.importParts selection one) (.importParts selection two)
  | replacePublicKey (one two : Bytes) : Alike (.replacePublicKey one) (.replacePublicKey two)
  | setParameters (one two : ParameterSet) : Alike (.setParameters one) (.setParameters two)
  | setPropertyQuery (one two : Option String) :
      Alike (.setPropertyQuery one) (.setPropertyQuery two)

/-- Changes behind a handle of one sort and selection. -/
inductive Adapter.Change.Alike : Adapter.Change → Adapter.Change → Prop where
  | importParts (selection : Selection) (one two : ParameterSet) :
      Alike (.importParts selection one) (.importParts selection two)
  | setParameters (one two : ParameterSet) : Alike (.setParameters one) (.setParameters two)

/-- Receivers that announce the same, whatever they are handed. -/
def SameDeaf {σ τ α β : Type} (one : ParameterSet → Action σ α)
    (two : ParameterSet → Action τ β) : Prop :=
  ∃ events, (∀ set, (one set).Announces events) ∧ ∀ set, (two set).Announces events

/-- Calls to adapters that do one thing, with one selection, to handles that are there or not alike and
hold keys or generations of one kind.  All else may be any. -/
inductive Adapter.Call.Alike : Adapter.Call → Adapter.Call → Prop where
  | emptyKey : Alike .emptyKey .emptyKey
  | free {one two : Option Key} (kind : Option.Rel Key.SameKind one two) :
      Alike (.free one) (.free two)
  | load {one two : Option Key} (kind : Option.Rel Key.SameKind one two) :
      Alike (.load one) (.load two)
  | has {one two : Option Key} (kind : Option.Rel Key.SameKind one two) (selection : Selection) :
      Alike (.has one selection) (.has two selection)
  | compare {one two other third : Option Key} (kind : Option.Rel Key.SameKind one two)
      (otherKind : Option.Rel Key.SameKind other third) (selection : Selection) :
      Alike (.compare one other selection) (.compare two third selection)
  | change {one two : Option Key} {first second : Adapter.Change} (alike : first.Alike second)
      (kind : Option.Rel Key.SameKind one two) : Alike (.change first one) (.change second two)
  | exportParts {one two : Option Key} {σ τ α β : Type} {first : ParameterSet → Action σ α}
      {second : ParameterSet → Action τ β} (deaf : SameDeaf first second)
      (kind : Option.Rel Key.SameKind one two) (selection : Selection) (held : σ) (other : τ) :
      Alike (.exportParts one selection first held) (.exportParts two selection second other)
  | getParameters {one two : Option Key} (kind : Option.Rel Key.SameKind one two)
      (first second : ParameterSet) : Alike (.getParameters one first) (.getParameters two second)
  | initGeneration (selection : Selection) :
      Alike (.initGeneration selection) (.initGeneration selection)
  | setGenerationParameters {one two : Option Generation}
      (kind : Option.Rel Generation.SameKind one two) (first second : ParameterSet) :
      Alike (.setGenerationParameters one first) (.setGenerationParameters two second)
  | generate {one two : Option Generation} (kind : Option.Rel Generation.SameKind one two)
      (first second : Draw) : Alike (.generate one first) (.generate two second)
  | cleanup {one two : Option Generation} (kind : Option.Rel Generation.SameKind one two) :
      Alike (.cleanup one) (.cleanup two)

/-- Calls that do one thing, with one name, class and selection, to keys or generations of one kind or
behind adapters of one descriptor.  All else may be any. -/
inductive Call.Alike : Call → Call → Prop where
  | newKey (name : String) (keyClass : KeyClass) (one two : Provider)
      (seed other : Option ClassicalKey) (query text : Option String) :
      Alike (.newKey one name seed keyClass query) (.newKey two name other keyClass text)
  | has {one two : Key} (kind : one.SameKind two) (selection : Selection) :
      Alike (.has one selection) (.has two selection)
  | compare {one two other third : Key} (kind : one.SameKind two) (otherKind : other.SameKind third)
      (selection : Selection) : Alike (.compare one other selection) (.compare two third selection)
  | change {one two : Key} {first second : Key.Change} (alike : first.Alike second)
      (kind : one.SameKind two) : Alike (.change first one) (.change second two)
  | exportParts {one two : Key} {σ τ α β : Type} {first : ParameterSet → Action σ α}
      {second : ParameterSet → Action τ β} (deaf : SameDeaf first second) (kind : one.SameKind two)
      (selection : Selection) (held : σ) (other : τ) :
      Alike (.exportParts one selection first held) (.exportParts two selection second other)
  | getParameters {one two : Key} (kind : one.SameKind two) (first second : ParameterSet) :
      Alike (.getParameters one first) (.getParameters two second)
  | freeKey {one two : Key} (kind : one.SameKind two) : Alike (.freeKey one) (.freeKey two)
  | initGeneration (name : String) (keyClass : KeyClass) (selection : Selection)
      (one two : Provider) :
      Alike (.initGeneration one selection name keyClass)
        (.initGeneration two selection name keyClass)
  | setGenerationParameters {one two : Generation} (kind : one.SameKind two)
      (first second : ParameterSet) :
      Alike (.setGenerationParameters one first) (.setGenerationParameters two second)
  | generate {one two : Generation} (kind : one.SameKind two) (first second : Draw) :
      Alike (.generate one first) (.generate two second)
  | cleanup {one two : Generation} (kind : one.SameKind two) : Alike (.cleanup one) (.cleanup two)
  | fetch (name : String) (one two : Provider) : Alike (.fetch one name) (.fetch two name)
  | adapter {one two : Adapter} {first second : Adapter.Call} (same : one.descriptor = two.descriptor)
      (alike : first.Alike second) : Alike (.adapter one first) (.adapter two second)

/-! ### Alike calls have one log -/

/-- Operations with one log on related states have one log behind handles that are there or not alike. -/
theorem Action.log_onHandle_eq {σ τ α β : Type} {related : σ → τ → Prop} {one : Option σ}
    {two : Option τ} (kind : Option.Rel related one two) {context : String} {first : Action σ α}
    {second : Action τ β}
    (same : ∀ {state held}, related state held → first.log state = second.log held) :
    (onHandle context first).log one = (onHandle context second).log two := by
  cases kind with
  | none => rw [log_onHandle_none, log_onHandle_none]
  | some states => rw [log_onHandle_some, log_onHandle_some, same states]

namespace Key

variable {σ τ α β : Type} {one two : Key}

theorem SameKind.log_has (kind : one.SameKind two) (selection : Selection) (state : σ) (other : τ) :
    (one.has selection : Action σ Bool).log state = (two.has selection : Action τ Bool).log other := by
  rw [announces_has, announces_has, kind.name]

theorem SameKind.log_compare (kind : one.SameKind two) (third fourth : Key) (selection : Selection)
    (state : σ) (other : τ) :
    (one.compare third selection : Action σ Bool).log state =
      (two.compare fourth selection : Action τ Bool).log other := by
  rw [announces_compare, announces_compare, kind.name]

theorem SameKind.log_free (kind : one.SameKind two) (state : σ) (other : τ) :
    (one.free : Action σ Unit).log state = (two.free : Action τ Unit).log other := by
  rw [announces_free, announces_free, kind.name]

theorem SameKind.log_getParameters (kind : one.SameKind two) (set other : ParameterSet) :
    one.getParameters.log set = two.getParameters.log other := by
  rw [announces_getParameters, announces_getParameters, kind.name]

theorem SameKind.log_exportParts (kind : one.SameKind two) {first : ParameterSet → Action σ α}
    {second : ParameterSet → Action τ β} (deaf : SameDeaf first second) (selection : Selection)
    (state : σ) (other : τ) :
    (one.exportParts selection first).log state = (two.exportParts selection second).log other := by
  obtain ⟨events, firstDeaf, secondDeaf⟩ := deaf
  rw [announces_exportParts one selection firstDeaf, announces_exportParts two selection secondDeaf,
    kind.name]

variable (memory other : Memory)

/-- Changes that are alike announce the same, whatever memory each of them finds. -/
theorem SameKind.log_change (kind : one.SameKind two) {first second : Change}
    (alike : first.Alike second) :
    (first.action memory).log one = (second.action other).log two := by
  cases alike with
  | generate draw drawn => rw [Change.action, Change.action, log_generate, log_generate, kind.name]
  | importParts selection set settings =>
      rw [Change.action, Change.action, log_importParts, log_importParts, kind.name]
  | replacePublicKey bytes encoded =>
      rw [Change.action, Change.action, announces_replacePublicKey, announces_replacePublicKey]
  | setParameters set settings =>
      rw [Change.action, Change.action, log_setParameters, log_setParameters, kind.name]
  | setPropertyQuery query text =>
      rw [Change.action, Change.action, announces_setPropertyQuery, announces_setPropertyQuery]

end Key

namespace Generation

variable {σ τ : Type} {one two : Generation}

theorem SameKind.log_setParameters (kind : one.SameKind two) (memory other : Memory)
    (set settings : ParameterSet) :
    (setParameters memory set).log one = (setParameters other settings).log two := by
  rw [Generation.log_setParameters, Generation.log_setParameters, kind.algorithm]

/-- Generations of one kind announce the same exactly when both get a key that they can fill, or neither
does. -/
theorem SameKind.log_generate_iff (kind : one.SameKind two) (memory other : Memory)
    (draw drawn : Draw) (state : σ) (held : τ) :
    (one.generate memory draw : Action σ Key).log state =
        (two.generate other drawn : Action τ Key).log held ↔
      one.startsKey memory = two.startsKey other := by
  rw [announces_generate, announces_generate, announced, announced, kind.algorithm, kind.keyClass]
  cases one.startsKey memory <;> cases two.startsKey other <;> simp

theorem SameKind.log_cleanup (kind : one.SameKind two) (state : σ) (other : τ) :
    (one.cleanup : Action σ Unit).log state = (two.cleanup : Action τ Unit).log other := by
  rw [announces_cleanup, announces_cleanup, kind.algorithm]

end Generation

section

variable (memory held : Memory)

/-- Behind handles that are there or not alike, changes announce the same. -/
theorem Adapter.Change.Alike.log_eq {first second : Adapter.Change} (alike : first.Alike second)
    {one two : Option Key} (kind : Option.Rel Key.SameKind one two) (adapter other : Adapter) :
    (first.action adapter memory).log one = (second.action other held).log two := by
  cases alike with
  | importParts selection set settings =>
      exact Action.log_onHandle_eq kind fun same =>
        same.log_change memory held (.importParts selection set settings)
  | setParameters set settings =>
      exact Action.log_onHandle_eq kind fun same =>
        same.log_change memory held (.setParameters set settings)

/-- Alike calls to adapters have one log, unless one of them runs a generation that gets a key to fill and
the other one does not. -/
theorem Adapter.Call.Alike.log_eq_iff {first second : Adapter.Call} (alike : first.Alike second)
    {adapter other : Adapter} (same : adapter.descriptor = other.descriptor) :
    first.log adapter memory = second.log other held ↔
      first.startsKey memory = second.startsKey held := by
  cases alike with
  | emptyKey =>
      refine iff_of_true ?_ rfl
      rw [log, log, Adapter.emptyKey, Adapter.emptyKey, Key.announces_new, Key.announces_new, same]
  | free kind =>
      refine iff_of_true ?_ rfl
      cases kind with
      | none => rw [log, log, log_free_none, log_free_none, same]
      | some kind => rw [log, log, log_free_some, log_free_some, kind.name]
  | load kind =>
      refine iff_of_true ?_ rfl
      rw [log, log, announces_load, announces_load, same]
  | has kind selection =>
      refine iff_of_true ?_ rfl
      cases kind with
      | none => rfl
      | some kind => exact kind.log_has selection () ()
  | compare kind otherKind selection =>
      refine iff_of_true ?_ rfl
      cases kind with
      | none => rfl
      | some kind =>
          cases otherKind with
          | none => rfl
          | some _ => exact kind.log_compare _ _ selection () ()
  | change alike kind => exact iff_of_true (alike.log_eq memory held kind adapter other) rfl
  | exportParts deaf kind selection state others =>
      refine iff_of_true ?_ rfl
      cases kind with
      | none => rfl
      | some kind => exact kind.log_exportParts deaf selection state others
  | getParameters kind set settings =>
      refine iff_of_true ?_ rfl
      cases kind with
      | none => rfl
      | some kind => exact kind.log_getParameters set settings
  | initGeneration selection =>
      refine iff_of_true ?_ rfl
      rw [log, log, Adapter.initGeneration, Adapter.initGeneration, Generation.announces_init,
        Generation.announces_init, same]
  | setGenerationParameters kind set settings =>
      refine iff_of_true ?_ rfl
      exact Action.log_onHandle_eq kind fun same => same.log_setParameters memory held set settings
  | generate kind draw drawn =>
      cases kind with
      | none =>
          refine iff_of_true ?_ rfl
          rw [log, log, log_generate_none, log_generate_none]
      | some kind =>
          rw [log, log, log_generate_some, log_generate_some]
          exact kind.log_generate_iff memory held draw drawn () ()
  | cleanup kind =>
      refine iff_of_true ?_ rfl
      cases kind with
      | none => rfl
      | some kind => rw [log, log, log_cleanup_some, log_cleanup_some, kind.algorithm]

/-- Alike calls have one log, whatever secrets they work on and whether they succeed or not.  Only a
generation depends on one more thing: whether it gets a key to fill. -/
theorem Call.Alike.log_eq_iff {first second : Call} (alike : first.Alike second) :
    first.log memory = second.log held ↔ first.startsKey memory = second.startsKey held := by
  cases alike with
  | newKey name keyClass one two seed other query text =>
      refine iff_of_true ?_ rfl
      rw [log, log, Key.announces_new, Key.announces_new]
  | has kind selection => exact iff_of_true (kind.log_has selection () ()) rfl
  | compare kind otherKind selection =>
      exact iff_of_true (kind.log_compare _ _ selection () ()) rfl
  | change alike kind => exact iff_of_true (kind.log_change memory held alike) rfl
  | exportParts deaf kind selection state other =>
      exact iff_of_true (kind.log_exportParts deaf selection state other) rfl
  | getParameters kind set settings => exact iff_of_true (kind.log_getParameters set settings) rfl
  | freeKey kind => exact iff_of_true (kind.log_free () ()) rfl
  | initGeneration name keyClass selection one two =>
      refine iff_of_true ?_ rfl
      rw [log, log, Generation.announces_init, Generation.announces_init]
  | setGenerationParameters kind set settings =>
      exact iff_of_true (kind.log_setParameters memory held set settings) rfl
  | generate kind draw drawn => exact kind.log_generate_iff memory held draw drawn () ()
  | cleanup kind => exact iff_of_true (kind.log_cleanup () ()) rfl
  | fetch name one two =>
      refine iff_of_true ?_ rfl
      rw [log, log, Adapter.announces_fetch, Adapter.announces_fetch]
  | adapter same alike => exact alike.log_eq_iff memory held same

end

/-! ### Histories -/

namespace Key

/-- The log of changes that are made one after another, each with the memory that it finds, whether they
succeed or not. -/
def historyLog : List (Memory × Change) → Key → List Event
  | [], _ => []
  | (memory, change) :: later, key =>
      (change.action memory).log key ++ historyLog later ((change.action memory).run key).state

/-- No change makes a key of another kind. -/
theorem SameKind.step {one two : Key} (kind : one.SameKind two) (memory other : Memory)
    (first second : Change) :
    ((first.action memory).run one).state.SameKind ((second.action other).run two).state := by
  have stays (memory : Memory) (change : Change) (key : Key) :
      ((change.action memory).run key).state.algorithm = key.algorithm :=
    (Step.direct memory change rfl).identity.2.1
  constructor
  · rw [stays, stays, kind.name]
  · rw [stays, stays, kind.keyClass]

/-- Two histories of alike changes have one log, however they part ways in what they leave. -/
theorem SameKind.historyLog_eq {one two : Key} (kind : one.SameKind two)
    {first second : List (Memory × Change)}
    (alike : List.Forall₂ (fun made done => made.2.Alike done.2) first second) :
    historyLog first one = historyLog second two := by
  induction alike generalizing one two with
  | nil => rfl
  | cons same _ inductionHypothesis =>
      -- The two keys may differ in every part by now, but not in kind.
      rw [historyLog, historyLog, kind.log_change _ _ same, inductionHypothesis (kind.step _ _ _ _)]

end Key

/-! ### Diagnostics -/

/-- Values of one shape have one dump.  Calls that are alike have one log, whatever memory each of them
finds; for generations this is so exactly when both get a key that they can fill, or neither does. -/
theorem diagnostics_blind_to_secrets :
    (∀ one two : Secret, one.SameShape two → one.dump = two.dump) ∧
    (∀ one two : ClassicalKey, one.SameShape two → one.dump = two.dump) ∧
    (∀ one two : Parameter, one.SameShape two → one.dump = two.dump) ∧
    (∀ one two : ParameterSet, one.SameShape two → one.dump = two.dump) ∧
    (∀ one two : Key, one.SameShape two → one.dump = two.dump) ∧
    ∀ (memory held : Memory) (first second : Call), first.Alike second →
      (first.log memory = second.log held ↔ first.startsKey memory = second.startsKey held) := by
  refine ⟨?_, ?_, ?_, ?_, ?_, ?_⟩
  · exact fun _ _ shape => shape.dump_eq
  · exact fun _ _ shape => shape.dump_eq
  · exact fun _ _ shape => shape.dump_eq
  · exact fun _ _ shape => shape.dump_eq
  · exact fun _ _ shape => shape.dump_eq
  · exact fun memory held _ _ alike => alike.log_eq_iff memory held

/-- A hybrid key whose private keys have one byte everywhere. -/
def keyOfByte (byte : UInt8) : Key :=
  { Key.withoutParts .x25519Mlkem512 with
    privateKey := some ⟨Composite.layout (List.replicate 32 byte) (List.replicate 1632 byte)⟩
    classical := some (.ofScalar .x25519 (List.replicate 32 byte)) }

theorem sameShape_keyOfByte (byte other : UInt8) : (keyOfByte byte).SameShape (keyOfByte other) := by
  have isPrivate (byte : UInt8) : Curve.x25519.IsPrivate (List.replicate 32 byte) :=
    ⟨List.length_replicate, rfl⟩
  have handles := ClassicalKey.sameShape_ofScalar (isPrivate byte) (isPrivate other)
  have length (byte : UInt8) :
      (Composite.layout (List.replicate 32 byte) (List.replicate 1632 byte)).length =
        Composite.length 32 1632 := by
    rw [Composite.length_layout, List.length_replicate, List.length_replicate]
  constructor
  case privateKey => exact congrArg some ((length byte).trans (length other).symm)
  case classical => exact .some handles
  case seed => exact .none
  all_goals rfl

/-- Two keys with different private parts have one dump, and when parameters are set on them, with a text
that is taken over, with a text that there is no memory for and with a number that is refused, the logs
are the same. -/
theorem diagnostics_of_two_private_parts :
    let one := keyOfByte 1
    let two := keyOfByte 2
    let accepted : ParameterSet := ⟨[⟨ParameterName.properties, .utf8 "fips=yes", false⟩]⟩
    let refused : ParameterSet := ⟨[⟨ParameterName.properties, .int 1, false⟩]⟩
    let scarce := Memory.exhaustedFor "property query"
    one.privateKey ≠ two.privateKey ∧ one.dump = two.dump ∧
      ((Key.setParameters .addressable accepted).run one).result = .ok () ∧
      ((Key.setParameters scarce accepted).run one).result =
        .error (.allocationFailure "property query") ∧
      ((Key.setParameters .addressable refused).run two).result =
        .error (.invalidInput ParameterName.properties "expected a UTF-8 string") ∧
      (Call.change (.setParameters accepted) one).log .addressable =
        (Call.change (.setParameters refused) two).log .addressable ∧
      (Call.change (.setParameters accepted) one).log scarce =
        (Call.change (.setParameters refused) two).log .addressable := by
  intro one two accepted refused scarce
  have differ : one.privateKey ≠ two.privateKey := by
    intro same
    have bytes := congrArg Secret.bytes (Option.some.inj same)
    have scalars := congrArg (Composite.classicalPart 32) bytes
    rw [Composite.classicalPart_layout List.length_replicate,
      Composite.classicalPart_layout List.length_replicate] at scalars
    exact absurd ((List.replicate_right_inj (by decide)).1 scalars) (by decide)
  have kind : one.SameKind two := ⟨rfl, rfl⟩
  have alike : (Call.change (.setParameters accepted) one).Alike
      (.change (.setParameters refused) two) :=
    .change (.setParameters accepted refused) kind
  obtain ⟨-, -, -, -, dumps, logs⟩ := diagnostics_blind_to_secrets
  exact ⟨differ, dumps one two (sameShape_keyOfByte 1 2), rfl, rfl, rfl,
    (logs .addressable .addressable _ _ alike).2 rfl, (logs scarce .addressable _ _ alike).2 rfl⟩

/-- Two generations that differ in their property queries only are run where there is memory for everything
but a copy of a property query.  The empty query needs none, and the generation of a key is announced; the
other one ends before that. -/
theorem log_tells_refused_query :
    let pending (query : String) : Generation :=
      { provider := {}
        algorithm := "mlkem512"
        keyClass := .ecxHybridKem
        selection := .empty
        groupName := none
        propertyQuery := some query }
    let draw : Draw := ⟨⟨[], []⟩, fun _ => default⟩
    let scarce := Memory.exhaustedFor "property query"
    let begun : List Event := [.generation "mlkem512", .keyNew "mlkem512" .ecxHybridKem]
    (Call.generate (pending "") draw).Alike (.generate (pending "fips=yes") draw) ∧
      (Call.generate (pending "") draw).log scarce = begun ++ [.keyGenerate "mlkem512"] ∧
      (Call.generate (pending "fips=yes") draw).log scarce = begun ∧
      (Call.generate (pending "") draw).log scarce ≠
        (Call.generate (pending "fips=yes") draw).log scarce := by
  intro pending draw scarce begun
  have starts (query : String) :
      (pending query).startsKey scarce = scarce.grantsText "property query" (some query) := by
    have resolved : Registry.resolve (pending query).algorithm (pending query).keyClass =
        .ok .x25519Mlkem512 := Algorithm.resolve_x25519Mlkem512
    rw [Generation.startsKey, resolved]
    rfl
  have logged (query : String) :
      (Call.generate (pending query) draw).log scarce =
        if scarce.grantsText "property query" (some query) then
          begun ++ [.keyGenerate "mlkem512"]
        else begun := by
    rw [Call.log, Generation.announces_generate, Generation.announced, starts]
  have whole : (Call.generate (pending "") draw).log scarce = begun ++ [.keyGenerate "mlkem512"] :=
    logged ""
  have cut : (Call.generate (pending "fips=yes") draw).log scarce = begun := logged "fips=yes"
  have kind : (pending "").SameKind (pending "fips=yes") := ⟨rfl, rfl, rfl⟩
  refine ⟨.generate kind draw draw, whole, cut, ?_⟩
  rw [whole, cut]
  decide

end HybridKeys
