/-
Module: HybridKeys.Generation
Purpose: Pending generations: an algorithm and the settings with which its keys are made.
Main exports: Generation, Generation.init, readSettings, withGiven, setParameters, generate, cleanup,
  settable, dump, blank, run_setParameters, run_generate
-/
import HybridKeys.Key.Parameters

namespace HybridKeys

/-- A pending generation.  It can be run any number of times, and each run makes a new key. -/
structure Generation where
  provider : Provider
  algorithm : String
  keyClass : KeyClass
  /-- The selection that was given at the start.  It is kept and not consulted: a generation always makes
  a full key pair. -/
  selection : Selection
  groupName : Option String
  propertyQuery : Option String
deriving DecidableEq, Repr, Inhabited

namespace Generation

variable {σ : Type}

def settable : List Parameter.Descriptor :=
  [⟨ParameterName.group, .utf8⟩, ⟨ParameterName.properties, .utf8⟩]

/-- Start a generation for a registered algorithm. -/
def init (provider : Provider) (selection : Selection) (name : String)
    (keyClass : KeyClass) : Action σ Generation := do
  Action.emit (.generationInit name keyClass selection)
  let algorithm ← Registry.resolve name keyClass
  return {
    provider := provider
    algorithm := algorithm.name
    keyClass := keyClass
    selection := selection
    groupName := none
    propertyQuery := none }

/-- The group name and the property query of a set, where it has them.  Each is copied as soon as it is
read. -/
def readSettings (memory : Memory) (set : ParameterSet) :
    Except Error (Option String × Option String) := do
  let group ← set.readText ParameterName.group
  let group ← Check.textGiven memory ParameterName.group group
  let properties ← set.readText ParameterName.properties
  let properties ← Check.textGiven memory ParameterName.properties properties
  return (group, properties)

/-- The generation with a new group name and a new property query, where they are given. -/
def withGiven (generation : Generation) (group properties : Option String) : Generation :=
  { generation with
    groupName := group <|> generation.groupName
    propertyQuery := properties <|> generation.propertyQuery }

/-- Take over the settings that a set has.  Both are there before either is taken over. -/
def setParameters (memory : Memory) (set : ParameterSet) : Action Generation Unit := do
  let generation ← Action.get
  Action.emit (.generationSetParameters generation.algorithm)
  let (group, properties) ← readSettings memory set
  Action.update (·.withGiven group properties)

def generate (generation : Generation) (memory : Memory) (draw : Draw) : Action σ Key := do
  Action.emit (.generation generation.algorithm)
  let empty ← Key.new memory generation.provider generation.algorithm none generation.keyClass
    generation.propertyQuery
  let named := { empty with groupName := generation.groupName }
  let ((), key) ← Action.within named (Key.generate memory draw)
  return key

def cleanup (generation : Generation) : Action σ Unit :=
  Action.emit (.generationCleanup generation.algorithm)

def dump (generation : Generation) : String :=
  Dump.record "GenContext"
    [("ctx", generation.provider.dump),
      ("algorithm_name", Dump.quoted generation.algorithm),
      ("key_type", generation.keyClass.dump),
      ("selection", generation.selection.dump),
      ("tls_group_name", Dump.option (generation.groupName.map Dump.quoted)),
      ("property_query", Dump.option (generation.propertyQuery.map Dump.quoted))]

/-! ### What a generation leaves behind -/

/-- The key that a generation fills.  It has the group and the property query of the generation, and no
parts yet. -/
def blank (generation : Generation) (algorithm : Algorithm) : Key :=
  ⟨generation.provider, algorithm, generation.groupName, none, none, none, none,
    generation.propertyQuery⟩

/-- Settings that cannot be read, or that there is no memory for, leave the generation as it was. -/
theorem run_setParameters (memory : Memory) (set : ParameterSet) (generation : Generation) :
    (setParameters memory set).run generation =
      match readSettings memory set with
      | .error e => ⟨.error e, generation, [.generationSetParameters generation.algorithm]⟩
      | .ok (group, properties) =>
        ⟨.ok (), generation.withGiven group properties,
          [.generationSetParameters generation.algorithm]⟩ := by
  rw [setParameters, Action.run_get_bind, Action.run_emit_bind]
  cases readSettings memory set with
  | error e => rw [Action.run_error_bind]
  | ok settings => rw [Action.run_ok_bind, Action.run_update]

/-- A generation looks its algorithm up once more, copies its property query and fills a blank key.  The
filling is announced only when it comes to that. -/
theorem run_generate (generation : Generation) (memory : Memory) (draw : Draw) (state : σ) :
    (generation.generate memory draw).run state =
      match Registry.resolve generation.algorithm generation.keyClass with
      | .error e =>
        ⟨.error e, state,
          [.generation generation.algorithm, .keyNew generation.algorithm generation.keyClass]⟩
      | .ok algorithm =>
        if memory.grantsText "property query" generation.propertyQuery then
          ⟨(algorithm.keygen memory none draw).map (generation.blank algorithm).withGenerated, state,
            [.generation generation.algorithm, .keyNew generation.algorithm generation.keyClass,
              .keyGenerate algorithm.name]⟩
        else
          ⟨.error (.allocationFailure "property query"), state,
            [.generation generation.algorithm, .keyNew generation.algorithm generation.keyClass]⟩ := by
  rw [generate, Action.run_emit_bind]
  have created : (Key.new memory generation.provider generation.algorithm none generation.keyClass
      generation.propertyQuery).run state = _ :=
    Key.run_new generation.provider generation.algorithm none generation.keyClass
      generation.propertyQuery state
  rw [Key.create_unseeded] at created
  cases resolved : Registry.resolve generation.algorithm generation.keyClass with
  | error e =>
      rw [resolved] at created
      rw [Action.run_bind_error created]
  | ok algorithm =>
      rw [resolved] at created
      by_cases granted : memory.grantsText "property query" generation.propertyQuery = true
      · simp only [granted, if_true] at created ⊢
        rw [Action.run_bind_ok created]
        have filled := Key.run_within_generate memory draw (generation.blank algorithm) state
        exact congrArg (fun outcome => (⟨outcome.result, outcome.state,
          .generation generation.algorithm :: .keyNew generation.algorithm generation.keyClass ::
            outcome.events⟩ : Outcome σ Key)) filled
      · simp only [granted] at created ⊢
        rw [Action.run_bind_error created]
        rfl

end Generation

end HybridKeys
