/-
Module: HybridKeys.Algorithm
Purpose: A registered name resolved for a class of keys: lengths, validation of encoded keys, keygen.
Main exports: Algorithm, publicKeyLength, privateKeyLength, maxOutputLength, readPublic, readPrivate,
  keygen, maxOutputLength_of_plain, length_layout_le_maxOutputLength_iff
-/
import HybridKeys.ClassicalKey
import HybridKeys.Composite
import HybridKeys.Draw

namespace HybridKeys

/-- An algorithm for keys of one class. -/
structure Algorithm where
  name : String
  keyClass : KeyClass
  primitive : Primitive
deriving DecidableEq, Repr, Inhabited

/-- What one key generation makes. -/
structure GeneratedKey where
  publicKey : Bytes
  privateKey : Secret
  /-- The classical key of a hybrid class, with its private key. -/
  classical : Option ClassicalKey
deriving DecidableEq, Inhabited

namespace Algorithm

def curve (a : Algorithm) : Option Curve :=
  a.keyClass.curve

def publicKeyLength (a : Algorithm) : Nat :=
  match a.curve with
  | some curve => Composite.length curve.publicKeyLength a.primitive.publicKeyLength
  | none => a.primitive.publicKeyLength

def privateKeyLength (a : Algorithm) : Nat :=
  match a.curve with
  | some curve => Composite.length curve.privateKeyLength a.primitive.secretKeyLength
  | none => a.primitive.secretKeyLength

/-- The length of the largest ciphertext or signature.  A hybrid ciphertext has a classical public key,
with its length, in front of the post-quantum one. -/
def maxOutputLength (a : Algorithm) : Nat :=
  match a.curve with
  | some curve => Composite.length curve.publicKeyLength a.primitive.maxOutputLength
  | none => a.primitive.maxOutputLength

/-- Check an encoded public key, and rebuild the handle of its classical part. -/
def readPublic (a : Algorithm) (bytes : Bytes) : Except Error (Option ClassicalKey) := do
  Check.length "public key" bytes.length a.publicKeyLength
  match a.curve with
  | some curve =>
    let (classical, _) ← Composite.split bytes (UInt64.ofNat curve.publicKeyLength)
    return some (← ClassicalKey.ofPublic curve classical)
  | none => return none

/-- Check an encoded private key, and rebuild the handle of its classical part. -/
def readPrivate (a : Algorithm) (bytes : Bytes) : Except Error (Option ClassicalKey) := do
  Check.length "private key" bytes.length a.privateKeyLength
  match a.curve with
  | some curve =>
    let (classical, _) ← Composite.split bytes (UInt64.ofNat curve.privateKeyLength)
    return some (← ClassicalKey.ofPrivate curve classical)
  | none => return none

/-- The post-quantum key pair of one draw, in new buffers of the declared lengths. -/
def drawKeyPair (a : Algorithm) (memory : Memory) (draw : Draw) : Except Error KeyPair := do
  let publicKey ← Check.allocate memory "public key" a.primitive.publicKeyLength
  let secretKey ← Secret.zeroed memory a.primitive.secretKeyLength
  let (made, _) ← (a.primitive.fillBuffers fun random => (draw.keyPair, random)).exec
    (⟨publicKey, secretKey.bytes⟩, ())
  return made

/-- Generate a key.  A hybrid class takes over the given classical key, which must hold its private
key; without one it draws a fresh classical key pair. -/
def keygen (a : Algorithm) (memory : Memory) (given : Option ClassicalKey) (draw : Draw) :
    Except Error GeneratedKey := do
  let made ← a.drawKeyPair memory draw
  match a.curve with
  | none =>
    return { publicKey := made.publicKey, privateKey := ⟨made.secretKey⟩, classical := none }
  | some curve =>
    let classical := given.getD (ClassicalKey.generate curve (draw.scalar curve))
    match classical.privateKey with
    | none => throw (.generationFailure a.name "classical key has no private part")
    | some scalar =>
      let publicKey ← Composite.joinPublic memory classical.publicKey made.publicKey
      let privateKey ← Composite.joinPrivate memory scalar made.secretKey
      return { publicKey := publicKey, privateKey := privateKey, classical := some classical }

/-! ### Outputs -/

variable {a : Algorithm}

theorem maxOutputLength_of_plain (plain : a.curve = none) :
    a.maxOutputLength = a.primitive.maxOutputLength := by
  rw [maxOutputLength, plain]

/-- A hybrid output is laid out like a key, with a classical public key in front.  It keeps within the
largest length of the algorithm exactly when its post-quantum part keeps within that of the primitive. -/
theorem length_layout_le_maxOutputLength_iff {curve : Curve} (hybrid : a.curve = some curve)
    {classical pq : Bytes} (onCurve : classical.length = curve.publicKeyLength) :
    (Composite.layout classical pq).length ≤ a.maxOutputLength ↔
      pq.length ≤ a.primitive.maxOutputLength := by
  rw [Composite.length_layout, onCurve, maxOutputLength, hybrid]
  exact Nat.add_le_add_iff_left

end Algorithm

end HybridKeys
