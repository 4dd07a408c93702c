/-
Module: HybridKeys.Key.Basic
Purpose: Keys: what they hold, what can be asked of them, and how they are read and written.
Main exports: Key, Key.create, Key.holds, Key.agrees, Key.exported, Key.Parts, Key.Parts.read, Key.dump
-/
import HybridKeys.Parameter.Name
import HybridKeys.Parameter.Set
import HybridKeys.Provider
import HybridKeys.Registry

namespace HybridKeys

/-- A key of one algorithm.  Its parts come and go; its identity stays. -/
structure Key where
  provider : Provider
  algorithm : Algorithm
  /-- The name of the group that the key was generated for. -/
  groupName : Option String
  publicKey : Option Bytes
  privateKey : Option Secret
  classical : Option ClassicalKey
  /-- The classical key that every generation of this key takes over. -/
  seed : Option ClassicalKey
  propertyQuery : Option String
deriving DecidableEq, Inhabited

namespace Key

/-! ### Construction -/

/-- A classical key that can be the seed of a key: it is on the curve of the class and holds its
private key. -/
def checkSeed (a : Algorithm) (seed : ClassicalKey) : Except Error Unit := do
  Check.that (a.curve = some seed.curve) "classical key" "curve does not match the key class"
  Check.that seed.hasPrivate "classical key" "classical key has no private part"

/-- A key without parts.  The property query is copied, once everything else has been checked. -/
def create (memory : Memory) (provider : Provider) (name : String) (seed : Option ClassicalKey)
    (keyClass : KeyClass) (propertyQuery : Option String) : Except Error Key := do
  let algorithm ← Registry.resolve name keyClass
  if let some seed := seed then
    checkSeed algorithm seed
  let propertyQuery ← Check.textGiven memory "property query" propertyQuery
  return {
    provider := provider
    algorithm := algorithm
    groupName := none
    publicKey := none
    privateKey := none
    classical := none
    seed := seed
    propertyQuery := propertyQuery }

/-- Without a seed a key is made for every registered name, if there is memory for its property query. -/
theorem create_unseeded (memory : Memory) (provider : Provider) (name : String) (keyClass : KeyClass)
    (query : Option String) :
    create memory provider name none keyClass query =
      match Registry.resolve name keyClass with
      | .error e => .error e
      | .ok algorithm =>
        if memory.grantsText "property query" query then
          .ok ⟨provider, algorithm, none, none, none, none, none, query⟩
        else .error (.allocationFailure "property query") := by
  rw [create]
  cases Registry.resolve name keyClass with
  | error e => rfl
  | ok algorithm =>
      rw [Check.textGiven_eq]
      split <;> rfl

/-! ### Queries -/

/-- Whether every selected half of the key pair is there.  Parameters always are. -/
def holds (key : Key) (selection : Selection) : Bool :=
  (!selection.publicKey || key.publicKey.isSome) &&
    (!selection.privateKey || key.privateKey.isSome)

/-- Whether two keys are of one algorithm and class. -/
def sharesAlgorithm (key other : Key) : Bool :=
  key.algorithm.keyClass = other.algorithm.keyClass && key.algorithm.name = other.algorithm.name

/-- Whether the private parts are both absent or equal, compared in constant time. -/
def samePrivate (key other : Key) : Bool :=
  match key.privateKey, other.privateKey with
  | none, none => true
  | some mine, some theirs => mine.constantTimeEq theirs
  | _, _ => false

/-- Whether two keys agree on the selected parts.  Keys of different algorithms agree on nothing.  On
the public part a key agrees only as long as it has none itself. -/
def agrees (key other : Key) (selection : Selection) : Bool :=
  (!selection.domainParameters || key.sharesAlgorithm other) &&
    (!selection.privateKey || (key.sharesAlgorithm other && key.samePrivate other)) &&
    (!selection.publicKey || (key.sharesAlgorithm other && key.publicKey.isNone))

/-- The property query in force: the key's own, or else that of its provider. -/
def queryInForce (key : Key) : Option String :=
  key.propertyQuery <|> key.provider.propertyQuery

/-- The selected parts that are there, as parameters. -/
def exported (key : Key) (selection : Selection) : ParameterSet :=
  let publicPart :=
    if selection.publicKey then key.publicKey else none
  let privatePart :=
    if selection.privateKey then key.privateKey.map Secret.bytes else none
  let set := publicPart.elim ParameterSet.empty
    (ParameterSet.empty.pushBytes ParameterName.publicKey)
  privatePart.elim set (set.pushBytes ParameterName.privateKey)

/-! ### Parts read from parameters -/

/-- Key parts that were read and found valid, and the classical key that follows from them. -/
structure Parts where
  publicKey : Option Bytes
  privateKey : Option Secret
  classical : Option ClassicalKey
deriving DecidableEq, Inhabited

/-- Read, check and copy the selected parts.  At least one must be there, and the classical key follows
from the private part where there is one. -/
def Parts.read (memory : Memory) (a : Algorithm) (selection : Selection) (set : ParameterSet) :
    Except Error Parts := do
  Check.that selection.namesKeyPart "import" "selection names no key part"
  let publicKey ←
    if selection.publicKey then set.readOctets ParameterName.publicKey else pure none
  let privateKey ←
    if selection.privateKey then set.readOctets ParameterName.privateKey else pure none
  Check.that (publicKey.isSome || privateKey.isSome) "import" "no pub or priv parameter supplied"
  let publicClassical ← publicKey.mapM a.readPublic
  let privateClassical ← privateKey.mapM a.readPrivate
  let publicKey ← Check.copyGiven memory ParameterName.publicKey publicKey
  let privateKey ← Secret.copyGiven memory privateKey
  return {
    publicKey := publicKey
    privateKey := privateKey
    classical := privateClassical.join <|> publicClassical.join }

/-! ### Changes -/

/-- The key without private material: the private part is gone, and the classical key has forgotten its
own. -/
def withoutPrivate (key : Key) : Key :=
  { key with
    privateKey := none
    classical := key.classical.map ClassicalKey.forgetPrivate }

/-- The key with an encoded public key and the classical key that follows from it.  What else it holds is
not touched. -/
def withEncoded (key : Key) (bytes : Bytes) (classical : Option ClassicalKey) : Key :=
  { key with
    publicKey := some bytes
    classical := classical }

/-- The key with these parts and no others. -/
def withParts (key : Key) (parts : Parts) : Key :=
  { key with
    publicKey := parts.publicKey
    privateKey := parts.privateKey
    classical := parts.classical }

/-- The key with what a generation made. -/
def withGenerated (key : Key) (made : GeneratedKey) : Key :=
  { key with
    publicKey := some made.publicKey
    privateKey := some made.privateKey
    classical := made.classical }

/-- The diagnostic text of a key: which parts are there, and nothing of what is in them. -/
def dump (key : Key) : String :=
  Dump.record "Key"
    [("algorithm", Dump.quoted key.algorithm.name),
      ("key_type", key.algorithm.keyClass.dump),
      ("has_public", Dump.flag key.publicKey.isSome),
      ("has_private", Dump.flag key.privateKey.isSome),
      ("tls_name", Dump.option (key.groupName.map Dump.quoted)),
      ("property_query", Dump.option (key.propertyQuery.map Dump.quoted))]

end Key

end HybridKeys
