/-
Module: HybridKeys.Adapter
Purpose: The adapters that a host fetches by name, and their operations on handles that may be absent.
Main exports: Adapter.Descriptor, Adapter.descriptors, Adapter, Adapter.fetch, emptyKey, load, …
-/
import HybridKeys.Generation

namespace HybridKeys

namespace Adapter

/-- A name that a host can fetch, and what it stands for. -/
structure Descriptor where
  name : String
  algorithm : String
  keyClass : KeyClass
deriving DecidableEq, Repr, Inhabited

def Descriptor.dump (d : Descriptor) : String :=
  Dump.record "KeyMgmtDescriptor"
    [("name", Dump.quoted d.name), ("algorithm", Dump.quoted d.algorithm),
      ("key_type", d.keyClass.dump)]

/-- The signature algorithms that have an adapter. -/
def signatureNames : List String :=
  ["oqs_sig_default", "dilithium2", "dilithium3", "dilithium5", "mldsa44", "mldsa65", "mldsa87",
    "falcon512", "falcon1024", "sphincssha2128fsimple", "sphincssha2128ssimple",
    "sphincssha2192fsimple", "sphincssha2192ssimple", "sphincssha2256fsimple",
    "sphincssha2256ssimple"]

/-- The key-encapsulation algorithms that have adapters. -/
def kemNames : List String :=
  ["kyber512", "kyber768", "kyber1024", "mlkem512", "mlkem768", "mlkem1024"]

/-- The adapters of a key-encapsulation algorithm: alone, and paired with each curve. -/
def kemDescriptors (name : String) : List Descriptor :=
  [⟨name, name, .kem⟩,
    ⟨Curve.p256.name ++ "_" ++ name, name, .ecpHybridKem⟩,
    ⟨Curve.x25519.name ++ "_" ++ name, name, .ecxHybridKem⟩]

def table : List Descriptor :=
  (signatureNames.map fun name => ⟨name, name, .signature⟩) ++ kemNames.flatMap kemDescriptors

/-- The adapters whose algorithm is registered. -/
def descriptors : List Descriptor :=
  table.filter fun d => (Registry.resolve d.algorithm d.keyClass).isOk

end Adapter

/-- An adapter that was fetched from a provider. -/
structure Adapter where
  provider : Provider
  descriptor : Adapter.Descriptor
  algorithm : Algorithm
deriving DecidableEq, Inhabited

namespace Adapter

variable {σ α : Type}

/-- Resolve an adapter by its name. -/
def fetch (provider : Provider) (name : String) : Action σ Adapter := do
  Action.emit (.adapterFetch name)
  match table.find? fun d => d.name = name with
  | none => Action.fail (.unknownAlgorithm name)
  | some descriptor =>
    let algorithm ← Registry.resolve descriptor.algorithm descriptor.keyClass
    return { provider := provider, descriptor := descriptor, algorithm := algorithm }

/-! ### Keys -/

def emptyKey (adapter : Adapter) (memory : Memory) : Action σ Key :=
  Key.new memory adapter.provider adapter.descriptor.algorithm none adapter.descriptor.keyClass none

/-- Give up the key behind a handle, if there is one. -/
def free (adapter : Adapter) : Action (Option Key) Unit := do
  match ← Action.get with
  | some key => key.free
  | none => Action.emit (.nullKeyFree adapter.descriptor.name)
  Action.update fun _ => none

/-- Take the key out of a handle, which is empty afterwards. -/
def load (adapter : Adapter) : Action (Option Key) Key := do
  Action.emit (.adapterLoad adapter.descriptor.name)
  let handle ← Action.get
  Action.update fun _ => none
  Check.present handle "load"

/-- Tell whether every selected half of the key pair is there; nothing is in an absent key. -/
def has (_ : Adapter) (key : Option Key) (selection : Selection) : Action σ Bool :=
  match key with
  | some key => key.has selection
  | none => return false

/-- Tell whether two keys agree on the selected parts; an absent key agrees with none. -/
def compare (_ : Adapter) (key other : Option Key) (selection : Selection) : Action σ Bool :=
  match key, other with
  | some key, some other => key.compare other selection
  | _, _ => return false

def importParts (_ : Adapter) (memory : Memory) (selection : Selection) (set : ParameterSet) :
    Action (Option Key) Unit :=
  Action.onHandle "import" (Key.importParts memory selection set)

def exportParts (_ : Adapter) (key : Option Key) (selection : Selection)
    (receiver : ParameterSet → Action σ α) : Action σ α := do
  let key ← Check.present key "export"
  key.exportParts selection receiver

def getParameters (_ : Adapter) (key : Option Key) : Action ParameterSet Unit := do
  let key ← Check.present key "get params"
  key.getParameters

def setParameters (_ : Adapter) (memory : Memory) (set : ParameterSet) :
    Action (Option Key) Unit :=
  Action.onHandle "set params" (Key.setParameters memory set)

def gettable (_ : Adapter) : List Parameter.Descriptor :=
  Key.gettable

def settable (_ : Adapter) : List Parameter.Descriptor :=
  Key.settable

def importTable (_ : Adapter) (selection : Selection) : Option (List Parameter.Descriptor) :=
  Key.importTable selection

def exportTable (_ : Adapter) (selection : Selection) : Option (List Parameter.Descriptor) :=
  Key.exportTable selection

/-! ### Generations -/

def initGeneration (adapter : Adapter) (selection : Selection) : Action σ Generation :=
  Generation.init adapter.provider selection adapter.descriptor.algorithm
    adapter.descriptor.keyClass

def setGenerationParameters (_ : Adapter) (memory : Memory) (set : ParameterSet) :
    Action (Option Generation) Unit :=
  Action.onHandle "gen set params" (Generation.setParameters memory set)

def generationSettable (_ : Adapter) : List Parameter.Descriptor :=
  Generation.settable

def generate (_ : Adapter) (memory : Memory) (generation : Option Generation) (draw : Draw) :
    Action σ Key := do
  let generation ← Check.present generation "gen"
  generation.generate memory draw

/-- Give up the generation behind a handle, if there is one. -/
def cleanup (_ : Adapter) : Action (Option Generation) Unit := do
  if let some generation ← Action.get then
    generation.cleanup
  Action.update fun _ => none

end Adapter

end HybridKeys
