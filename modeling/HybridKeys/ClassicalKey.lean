/-
Module: HybridKeys.ClassicalKey
Purpose: Handles to classical keys: the public key, and the private key where it is held.
Main exports: ClassicalKey, ofScalar, generate, ofPublic, ofPrivate, forgetPrivate, dump
-/
import HybridKeys.Check
import HybridKeys.Curve.Basic

namespace HybridKeys

/-- A handle to a key on a curve. -/
structure ClassicalKey where
  curve : Curve
  publicKey : Bytes
  /-- The encoded private key, if the handle holds it. -/
  privateKey : Option Bytes
deriving DecidableEq, Inhabited

namespace ClassicalKey

/-- The handle of a private key, with the public key that follows from it. -/
def ofScalar (curve : Curve) (scalar : Bytes) : ClassicalKey where
  curve := curve
  publicKey := curve.derive scalar
  privateKey := some scalar

/-- The handle of a key pair whose private key was drawn at random. -/
def generate (curve : Curve) (fresh : curve.Scalar) : ClassicalKey :=
  ofScalar curve fresh.val

/-- The handle of an encoded public key. -/
def ofPublic (curve : Curve) (bytes : Bytes) : Except Error ClassicalKey := do
  Check.length "classical public key" bytes.length curve.publicKeyLength
  Check.that (curve.acceptsPublic bytes) "classical public key" "not a valid P-256 point"
  return { curve := curve, publicKey := bytes, privateKey := none }

/-- The handle of an encoded private key. -/
def ofPrivate (curve : Curve) (bytes : Bytes) : Except Error ClassicalKey := do
  Check.length "classical private key" bytes.length curve.privateKeyLength
  Check.that (curve.acceptsPrivate bytes) "classical private key" "not a valid P-256 scalar"
  return ofScalar curve bytes

def hasPrivate (key : ClassicalKey) : Bool :=
  key.privateKey.isSome

def forgetPrivate (key : ClassicalKey) : ClassicalKey :=
  { key with privateKey := none }

/-- The diagnostic text of a handle: the curve, the length of the public key, and whether there is a
private key. -/
def dump (key : ClassicalKey) : String :=
  Dump.record "ClassicalKey"
    [("curve", key.curve.dump),
      ("public_len", toString key.publicKey.length),
      ("secret", Dump.option (key.privateKey.map fun _ => Dump.quoted "[REDACTED]"))]

end ClassicalKey

end HybridKeys
