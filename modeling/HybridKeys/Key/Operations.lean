/-
Module: HybridKeys.Key.Operations
Purpose: The operations on a key as a host sees them, with the events that they announce.
Main exports: Key.new, generate, has, compare, importParts, exportParts, replacePublicKey,
  setPropertyQuery, free
-/
import HybridKeys.Key.Basic

namespace HybridKeys.Key

/-!
Each of these operations announces itself, if it does at all, before it does anything else.  One that
changes a key reads, checks and copies all that it needs, and writes afterwards.  Neither holds of what is
made of several operations in turn: it announces those that it comes to, and what the first one wrote
stands when the second one fails.
-/

variable {σ α : Type}

def new (memory : Memory) (provider : Provider) (name : String) (seed : Option ClassicalKey)
    (keyClass : KeyClass) (propertyQuery : Option String) : Action σ Key := do
  Action.emit (.keyNew name keyClass)
  create memory provider name seed keyClass propertyQuery

/-- Replace every part by what a new generation makes. -/
def generate (memory : Memory) (draw : Draw) : Action Key Unit := do
  let key ← Action.get
  Action.emit (.keyGenerate key.algorithm.name)
  let made ← key.algorithm.keygen memory key.seed draw
  Action.update withoutPrivate
  Action.update (·.withGenerated made)

/-- Tell whether every selected half of the key pair is there. -/
def has (key : Key) (selection : Selection) : Action σ Bool := do
  Action.emit (.keyHas key.algorithm.name selection)
  return key.holds selection

/-- Tell whether two keys agree on the selected parts. -/
def compare (key other : Key) (selection : Selection) : Action σ Bool := do
  Action.emit (.keyMatch key.algorithm.name selection)
  return key.agrees other selection

/-- Replace the parts of a key by those of a parameter set.  Only selected parts are read, and a part
that is not supplied is absent afterwards. -/
def importParts (memory : Memory) (selection : Selection) (set : ParameterSet) :
    Action Key Unit := do
  let key ← Action.get
  Action.emit (.keyImport key.algorithm.name selection)
  let parts ← Parts.read memory key.algorithm selection set
  Action.update withoutPrivate
  Action.update (·.withParts parts)

/-- Hand the selected parts that are there to a receiver, once, and answer what it answers. -/
def exportParts (key : Key) (selection : Selection) (receiver : ParameterSet → Action σ α) :
    Action σ α := do
  Action.emit (.keyExport key.algorithm.name selection)
  receiver (key.exported selection)

/-- Replace the public part by an encoded public key.  The private part does not belong to it and is
erased. -/
def replacePublicKey (memory : Memory) (bytes : Bytes) : Action Key Unit := do
  let key ← Action.get
  let classical ← key.algorithm.readPublic bytes
  let publicKey ← Check.copy memory ParameterName.encodedPublicKey bytes
  Action.update withoutPrivate
  Action.update (·.withEncoded publicKey classical)

def setPropertyQuery (memory : Memory) (query : Option String) : Action Key Unit := do
  let query ← Check.textGiven memory "property query" query
  Action.update fun key => { key with propertyQuery := query }

def free (key : Key) : Action σ Unit :=
  Action.emit (.keyFree key.algorithm.name)

/-! ### What the operations leave behind -/

variable {memory : Memory}

/-- What is announced and whether a key is made are two things: the event comes first. -/
theorem run_new (provider : Provider) (name : String) (seed : Option ClassicalKey)
    (keyClass : KeyClass) (query : Option String) (state : σ) :
    (new memory provider name seed keyClass query).run state =
      ⟨create memory provider name seed keyClass query, state, [.keyNew name keyClass]⟩ := by
  rw [new, Action.run_emit_bind, Action.run_liftM]

/-- A generation that fails leaves the key as it was; one that succeeds replaces its parts. -/
theorem run_generate (draw : Draw) (key : Key) :
    (generate memory draw).run key =
      match key.algorithm.keygen memory key.seed draw with
      | .error e => ⟨.error e, key, [.keyGenerate key.algorithm.name]⟩
      | .ok made => ⟨.ok (), key.withGenerated made, [.keyGenerate key.algorithm.name]⟩ := by
  simp only [generate, Action.run_get_bind, Action.run_emit_bind]
  cases key.algorithm.keygen memory key.seed draw <;> simp [withoutPrivate, withGenerated]

/-- A key that is filled on the side is handed out as the generation leaves it. -/
theorem run_within_generate (memory : Memory) (draw : Draw) (key : Key) (state : σ) :
    (do
      let ((), filled) ← Action.within key (generate memory draw)
      return filled : Action σ Key).run state =
      ⟨(key.algorithm.keygen memory key.seed draw).map key.withGenerated, state,
        [.keyGenerate key.algorithm.name]⟩ := by
  have inside : (Action.within key (generate memory draw)).run state =
      ⟨((generate memory draw).run key).result.map (·, ((generate memory draw).run key).state), state,
        ((generate memory draw).run key).events⟩ := rfl
  rw [run_generate] at inside
  cases drawn : key.algorithm.keygen memory key.seed draw with
  | error e =>
      rw [drawn] at inside
      rw [Action.run_bind_error inside]
      rfl
  | ok made =>
      rw [drawn] at inside
      rw [Action.run_bind_ok inside]
      rfl

/-- An import that fails leaves the key as it was; one that succeeds replaces its parts. -/
theorem run_importParts (selection : Selection) (set : ParameterSet) (key : Key) :
    (importParts memory selection set).run key =
      match Parts.read memory key.algorithm selection set with
      | .error e => ⟨.error e, key, [.keyImport key.algorithm.name selection]⟩
      | .ok parts => ⟨.ok (), key.withParts parts, [.keyImport key.algorithm.name selection]⟩ := by
  simp only [importParts, Action.run_get_bind, Action.run_emit_bind]
  cases Parts.read memory key.algorithm selection set <;> simp [withoutPrivate, withParts]

/-- An encoded public key that is refused, or that there is no memory for, leaves the key as it was;
another becomes its only part, since what is private has been erased. -/
theorem run_replacePublicKey (bytes : Bytes) (key : Key) :
    (replacePublicKey memory bytes).run key =
      match key.algorithm.readPublic bytes with
      | .error e => ⟨.error e, key, []⟩
      | .ok classical =>
        if memory.grants ParameterName.encodedPublicKey bytes.length then
          ⟨.ok (),
            key.withParts { publicKey := some bytes, privateKey := none, classical := classical }, []⟩
        else ⟨.error (.allocationFailure ParameterName.encodedPublicKey), key, []⟩ := by
  simp only [replacePublicKey, Action.run_get_bind]
  cases key.algorithm.readPublic bytes with
  | error e => simp
  | ok classical =>
      rw [Check.copy_eq]
      split <;> simp [withoutPrivate, withEncoded, withParts]

/-- A property query that there is no memory for leaves the key as it was. -/
theorem run_setPropertyQuery (query : Option String) (key : Key) :
    (setPropertyQuery memory query).run key =
      if memory.grantsText "property query" query then
        ⟨.ok (), { key with propertyQuery := query }, []⟩
      else ⟨.error (.allocationFailure "property query"), key, []⟩ := by
  rw [setPropertyQuery, Check.textGiven_eq]
  split <;> rfl

end HybridKeys.Key
