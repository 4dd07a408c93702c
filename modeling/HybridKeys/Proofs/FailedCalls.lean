/-
Module: HybridKeys.Proofs.FailedCalls
Purpose: The calls that change a key, directly or behind an adapter, and which of them change nothing
  when they fail.
Main exports: Action.Reads, Action.Infallible, Action.FailsClean, Key.Change, Adapter.Change,
  failsClean_generate, failsClean_importParts, failsClean_replacePublicKey,
  failsClean_setPropertyQuery, setParameters_eq, Generation.reads_generate
-/
import HybridKeys.Adapter

namespace HybridKeys

/-!
An operation on a key first reads, checks and copies, and then writes.  The order is what keeps a failed
call from leaving traces: nothing that comes before the last check writes, and nothing that comes after
the first write fails.  The three properties below say this of an operation, and the laws of `bind` say
how a sequence comes by them.  A sequence of two operations that each fail clean has no part in it: the
second may fail when the first has written, and setting parameters is such a sequence.
-/

namespace Action

variable {σ τ α β : Type} {first : Action σ α} {next : α → Action σ β}

/-- An operation that leaves the state as it was, however it ends. -/
def Reads (action : Action σ α) : Prop :=
  ∀ state, (action.run state).state = state

/-- An operation that always has an answer. -/
def Infallible (action : Action σ α) : Prop :=
  ∀ state, ∃ value, (action.run state).result = .ok value

/-- An operation that leaves the state as it was when it fails. -/
def FailsClean (action : Action σ α) : Prop :=
  ∀ state e, (action.run state).result = .error e → (action.run state).state = state

/-- What a sequence does is what its second operation does after the first, unless the first fails. -/
theorem run_bind_cases (first : Action σ α) (next : α → Action σ β) (state : σ) :
    (∃ e, (first.run state).result = .error e ∧ ((first >>= next).run state).result = .error e ∧
      ((first >>= next).run state).state = (first.run state).state) ∨
    ∃ value, (first.run state).result = .ok value ∧
      ((first >>= next).run state).result = ((next value).run (first.run state).state).result ∧
      ((first >>= next).run state).state = ((next value).run (first.run state).state).state := by
  rcases done : first.run state with ⟨e | value, after, events⟩
  · rw [run_bind_error done]
    exact .inl ⟨e, rfl, rfl, rfl⟩
  · rw [run_bind_ok done]
    exact .inr ⟨value, rfl, rfl, rfl⟩

namespace Reads

theorem get : (Action.get : Action σ σ).Reads := fun _ => rfl

theorem emit (event : Event) : (Action.emit event : Action σ Unit).Reads := fun _ => rfl

theorem pure (value : α) : (Pure.pure value : Action σ α).Reads := fun _ => rfl

theorem liftM (result : Except Error α) : (MonadLiftT.monadLift result : Action σ α).Reads :=
  fun _ => rfl

theorem within (inner : τ) (action : Action τ α) : (Action.within inner action : Action σ _).Reads :=
  fun _ => rfl

theorem bind (one : first.Reads) (rest : ∀ value, (next value).Reads) : (first >>= next).Reads := by
  intro state
  rcases run_bind_cases first next state with ⟨_, -, -, left⟩ | ⟨value, -, -, left⟩
  · rw [left, one state]
  · rw [left, rest value _, one state]

end Reads

namespace Infallible

theorem pure (value : α) : (Pure.pure value : Action σ α).Infallible :=
  fun _ => ⟨value, rfl⟩

theorem update (change : σ → σ) : (Action.update change).Infallible :=
  fun _ => ⟨(), rfl⟩

theorem bind (one : first.Infallible) (rest : ∀ value, (next value).Infallible) :
    (first >>= next).Infallible := by
  intro state
  rcases run_bind_cases first next state with ⟨e, failed, -⟩ | ⟨value, -, result, -⟩
  · obtain ⟨value, answered⟩ := one state
    rw [answered] at failed
    cases failed
  · rw [result]
    exact rest value _

theorem failsClean {action : Action σ α} (infallible : action.Infallible) : action.FailsClean := by
  intro state e failed
  obtain ⟨value, answered⟩ := infallible state
  rw [answered] at failed
  cases failed

end Infallible

namespace FailsClean

/-- What only reads may come before an operation that fails clean. -/
theorem bind_of_reads (reads : first.Reads) (rest : ∀ value, (next value).FailsClean) :
    (first >>= next).FailsClean := by
  intro state e failed
  rcases run_bind_cases first next state with ⟨_, -, -, left⟩ | ⟨value, -, result, left⟩
  · rw [left, reads state]
  · rw [result] at failed
    rw [left, rest value _ e failed, reads state]

theorem mapError {action : Action σ α} (clean : action.FailsClean) (change : Error → Error) :
    (action.mapError change).FailsClean := by
  intro state e failed
  cases ended : (action.run state).result with
  | error cause => exact clean state cause ended
  | ok value =>
      have answered : ((action.mapError change).run state).result = .ok value :=
        congrArg (Except.mapError change) ended
      rw [answered] at failed
      cases failed

end FailsClean

end Action

/-! ### Calls that change a key -/

namespace Key

/-- A call that changes a key, with all that it is given.  The draw of a generation is part of it: the
library's key pair may be of any lengths. -/
inductive Change where
  | generate (draw : Draw)
  | importParts (selection : Selection) (set : ParameterSet)
  | replacePublicKey (bytes : Bytes)
  | setParameters (set : ParameterSet)
  | setPropertyQuery (query : Option String)

/-- What a call does with the memory that it finds. -/
def Change.action (memory : Memory) : Change → Action Key Unit
  | .generate draw => Key.generate memory draw
  | .importParts selection set => Key.importParts memory selection set
  | .replacePublicKey bytes => Key.replacePublicKey memory bytes
  | .setParameters set => Key.setParameters memory set
  | .setPropertyQuery query => Key.setPropertyQuery memory query

end Key

namespace Adapter

/-- A call to an adapter that changes the key behind a handle. -/
inductive Change where
  | importParts (selection : Selection) (set : ParameterSet)
  | setParameters (set : ParameterSet)

/-- What a call does to a handle. -/
def Change.action (adapter : Adapter) (memory : Memory) : Change → Action (Option Key) Unit
  | .importParts selection set => adapter.importParts memory selection set
  | .setParameters set => adapter.setParameters memory set

/-- The call that an adapter makes on the key, when it is asked for a change. -/
def Change.handedOn : Change → Key.Change
  | .importParts selection set => .importParts selection set
  | .setParameters set => .setParameters set

/-- An adapter hands a change on to the key, whatever the algorithm of either. -/
theorem Change.run_some (adapter : Adapter) (memory : Memory) (change : Change) (key : Key) :
    ((change.action adapter memory).run (some key)).result =
        ((change.handedOn.action memory).run key).result ∧
      ((change.action adapter memory).run (some key)).state =
        some ((change.handedOn.action memory).run key).state := by
  cases change <;> exact ⟨rfl, rfl⟩

end Adapter

/-! ### Each call by itself -/

namespace Key

open HybridKeys.Action

variable (memory : Memory)

/-- What an operation ends with that has new parts: it erases the private material and writes them. -/
theorem infallible_commit (change : Key → Key) :
    (update withoutPrivate >>= fun _ => update change).Infallible :=
  .bind (.update _) fun _ => .update _

theorem failsClean_generate (draw : Draw) : (generate memory draw).FailsClean := by
  refine .bind_of_reads .get fun key => ?_
  refine .bind_of_reads (.emit _) fun _ => ?_
  refine .bind_of_reads (.liftM _) fun made => ?_
  exact (infallible_commit _).failsClean

theorem failsClean_importParts (selection : Selection) (set : ParameterSet) :
    (importParts memory selection set).FailsClean := by
  refine .bind_of_reads .get fun key => ?_
  refine .bind_of_reads (.emit _) fun _ => ?_
  refine .bind_of_reads (.liftM _) fun parts => ?_
  exact (infallible_commit _).failsClean

theorem failsClean_replacePublicKey (bytes : Bytes) :
    (replacePublicKey memory bytes).FailsClean := by
  refine .bind_of_reads .get fun key => ?_
  refine .bind_of_reads (.liftM _) fun classical => ?_
  refine .bind_of_reads (.liftM _) fun publicKey => ?_
  exact (infallible_commit _).failsClean

theorem failsClean_setPropertyQuery (query : Option String) :
    (setPropertyQuery memory query).FailsClean := by
  refine .bind_of_reads (.liftM _) fun query => ?_
  exact (Infallible.update _).failsClean

/-! ### Two changes in one call -/

/-- Replace the public part, if parameters have one. -/
def replaceIfGiven (encoded : Option Bytes) : Action Key Unit :=
  match encoded with
  | none => pure ()
  | some bytes =>
      (replacePublicKey memory bytes).mapError (·.inContext ParameterName.encodedPublicKey)

/-- Replace the property query, if parameters have one. -/
def queryIfGiven (properties : Option String) : Action Key Unit :=
  match properties with
  | none => pure ()
  | some query => setPropertyQuery memory (some query)

/-- Setting parameters reads both values and then makes two changes, one after the other. -/
theorem setParameters_eq (set : ParameterSet) :
    setParameters memory set = (do
      let key ← get
      emit (.setParameters key.algorithm.name)
      let encoded ← set.readOctets ParameterName.encodedPublicKey
      let properties ← set.readText ParameterName.properties
      replaceIfGiven memory encoded
      queryIfGiven memory properties) := by
  unfold setParameters
  refine congrArg (get >>= ·) (funext fun key => ?_)
  refine congrArg (emit _ >>= ·) (funext fun _ => ?_)
  refine congrArg (liftM (set.readOctets _) >>= ·) (funext fun encoded => ?_)
  refine congrArg (liftM (set.readText _) >>= ·) (funext fun properties => ?_)
  cases encoded <;> cases properties <;> rfl

variable {memory}

/-- Where both values can be read, it comes to the two changes. -/
theorem run_setParameters_of_read {set : ParameterSet} {encoded : Option Bytes}
    {properties : Option String}
    (encodedRead : set.readOctets ParameterName.encodedPublicKey = .ok encoded)
    (propertiesRead : set.readText ParameterName.properties = .ok properties) (key : Key) :
    let changes :=
      (do replaceIfGiven memory encoded; queryIfGiven memory properties : Action Key Unit).run key
    (setParameters memory set).run key =
      ⟨changes.result, changes.state, .setParameters key.algorithm.name :: changes.events⟩ := by
  rw [setParameters_eq, run_get_bind, run_emit_bind, encodedRead, run_ok_bind, propertiesRead,
    run_ok_bind]

/-- Given bytes become the only part of the key, or the call fails in its own context. -/
theorem run_replaceIfGiven (bytes : Bytes) (key : Key) :
    (replaceIfGiven memory (some bytes)).run key =
      match key.algorithm.readPublic bytes with
      | .error e => ⟨.error (e.inContext ParameterName.encodedPublicKey), key, []⟩
      | .ok classical =>
        if memory.grants ParameterName.encodedPublicKey bytes.length then
          ⟨.ok (), key.withParts ⟨some bytes, none, classical⟩, []⟩
        else ⟨.error (.allocationFailure ParameterName.encodedPublicKey), key, []⟩ := by
  rw [replaceIfGiven, run_mapError, run_replacePublicKey]
  cases key.algorithm.readPublic bytes with
  | error e => rfl
  | ok classical =>
      dsimp only
      split <;> rfl

/-- Both values can be read, or the call fails with the key as it was. -/
theorem setParameters_cases (memory : Memory) (set : ParameterSet) (key : Key) :
    (∃ e, (setParameters memory set).run key = ⟨.error e, key, [.setParameters key.algorithm.name]⟩) ∨
    ∃ encoded properties, set.readOctets ParameterName.encodedPublicKey = .ok encoded ∧
      set.readText ParameterName.properties = .ok properties := by
  rw [setParameters_eq, run_get_bind, run_emit_bind]
  cases set.readOctets ParameterName.encodedPublicKey with
  | error e =>
      rw [run_error_bind]
      exact .inl ⟨e, rfl⟩
  | ok encoded =>
      rw [run_ok_bind]
      cases set.readText ParameterName.properties with
      | error e =>
          rw [run_error_bind]
          exact .inl ⟨e, rfl⟩
      | ok properties => exact .inr ⟨encoded, properties, rfl, rfl⟩

theorem run_queryIfGiven (query : String) (key : Key) :
    (queryIfGiven memory (some query)).run key =
      if memory.grants "property query" query.utf8ByteSize then
        ⟨.ok (), { key with propertyQuery := some query }, []⟩
      else ⟨.error (.allocationFailure "property query"), key, []⟩ := by
  rw [queryIfGiven, run_setPropertyQuery, Memory.grantsText_some]

theorem failsClean_replaceIfGiven (encoded : Option Bytes) :
    (replaceIfGiven memory encoded).FailsClean := by
  cases encoded with
  | none => exact (Infallible.pure ()).failsClean
  | some bytes => exact (failsClean_replacePublicKey memory bytes).mapError _

theorem failsClean_queryIfGiven (properties : Option String) :
    (queryIfGiven memory properties).FailsClean := by
  cases properties with
  | none => exact (Infallible.pure ()).failsClean
  | some query => exact failsClean_setPropertyQuery memory (some query)

end Key

/-! ### Generations -/

/-- A generation works on a key of its own.  What the host holds already is not touched, whether the new key
is handed out or not. -/
theorem Generation.reads_generate {σ : Type} (generation : Generation) (memory : Memory)
    (draw : Draw) : (generation.generate memory draw : Action σ Key).Reads := by
  refine .bind (.emit _) fun _ => ?_
  refine .bind ?_ fun empty => ?_
  · exact .bind (.emit _) fun _ => .liftM _
  · exact .bind (.within _ _) fun _ => .pure _

theorem Adapter.reads_generate {σ : Type} (adapter : Adapter) (memory : Memory)
    (generation : Option Generation) (draw : Draw) :
    (adapter.generate memory generation draw : Action σ Key).Reads := by
  refine .bind (.liftM _) fun pending => ?_
  exact pending.reads_generate memory draw

end HybridKeys
