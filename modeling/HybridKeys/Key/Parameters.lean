/-
Module: HybridKeys.Key.Parameters
Purpose: Keys seen through named parameters: what can be asked, set, imported and exported.
Main exports: Key.getParameters, Key.setParameters, Key.gettable, Key.settable, Key.importTable,
  Key.exportTable
-/
import HybridKeys.Key.Operations

namespace HybridKeys.Key

/-! ### Tables -/

def gettable : List Parameter.Descriptor :=
  [⟨ParameterName.bits, .int⟩,
    ⟨ParameterName.securityBits, .int⟩,
    ⟨ParameterName.maxSize, .int⟩,
    ⟨ParameterName.encodedPublicKey, .octets⟩,
    ⟨ParameterName.publicKey, .octets⟩,
    ⟨ParameterName.privateKey, .octets⟩]

def settable : List Parameter.Descriptor :=
  [⟨ParameterName.encodedPublicKey, .octets⟩, ⟨ParameterName.properties, .utf8⟩]

/-- What an import reads for a selection: the selected halves of the key pair.  A selection without any
has no table. -/
def importTable (selection : Selection) : Option (List Parameter.Descriptor) :=
  let publicPart := ⟨ParameterName.publicKey, .octets⟩
  let privatePart := ⟨ParameterName.privateKey, .octets⟩
  match selection.publicKey, selection.privateKey with
  | true, true => some [publicPart, privatePart]
  | true, false => some [publicPart]
  | false, true => some [privatePart]
  | false, false => none

def exportTable (selection : Selection) : Option (List Parameter.Descriptor) :=
  importTable selection

/-! ### Getting and setting -/

/-- Fill the slot of a name, if there is one, with a value. -/
def fillSlot (name : String) (value : Parameter.Value) : Action ParameterSet Unit :=
  Action.update (·.fill name value)

/-- Fill the slot of a name, if there is one, with a key part.  To ask for a part that is absent is an
error. -/
def fillPart (name : String) (part : Option Bytes) : Action ParameterSet Unit := do
  let set ← Action.get
  if (set.find? name).isSome then
    let bytes ← Check.present part name
    fillSlot name (.octets bytes)

/-- Fill the slots of a request with what a key has to say.  The slots are filled one after another, and
those before a failure stay filled. -/
def getParameters (key : Key) : Action ParameterSet Unit := do
  Action.emit (.getParameters key.algorithm.name)
  let strength := Parameter.Value.ofCount key.algorithm.primitive.strength
  fillSlot ParameterName.bits strength
  fillSlot ParameterName.securityBits strength
  fillSlot ParameterName.maxSize (.ofCount key.algorithm.maxOutputLength)
  fillPart ParameterName.encodedPublicKey key.publicKey
  fillPart ParameterName.publicKey key.publicKey
  fillPart ParameterName.privateKey (key.privateKey.map Secret.bytes)

/-- Apply the settable parameters of a set.  Both are read before either is applied, but each is copied
only when its turn comes, and the public key that was replaced by then stays replaced if there is no memory
for the property query. -/
def setParameters (memory : Memory) (set : ParameterSet) : Action Key Unit := do
  let key ← Action.get
  Action.emit (.setParameters key.algorithm.name)
  let encoded ← set.readOctets ParameterName.encodedPublicKey
  let properties ← set.readText ParameterName.properties
  if let some bytes := encoded then
    (replacePublicKey memory bytes).mapError (·.inContext ParameterName.encodedPublicKey)
  if let some query := properties then
    setPropertyQuery memory (some query)

end HybridKeys.Key
