/-
Module: HybridKeys.Curve.Basic
Purpose: The classical curves of hybrid keys, seen through the bytes of their keys.
Main exports: Curve, publicKeyLength, privateKeyLength, acceptsPublic, acceptsPrivate, derive, Scalar
-/
import HybridKeys.Curve.P256
import HybridKeys.Curve.X25519
import HybridKeys.KeyClass

namespace HybridKeys

/-- A classical curve that can be paired with a post-quantum key. -/
inductive Curve where
  | p256
  | x25519
deriving DecidableEq, Repr, Inhabited

namespace Curve

def publicKeyLength : Curve → Nat
  | .p256 => 65
  | .x25519 => 32

def privateKeyLength : Curve → Nat
  | .p256 => 32
  | .x25519 => 32

/-- The name of a curve, as it stands in the names of hybrid algorithms. -/
def name : Curve → String
  | .p256 => "p256"
  | .x25519 => "x25519"

def dump : Curve → String
  | .p256 => "P256"
  | .x25519 => "X25519"

/-- Whether bytes of the public length are a public key: a finite point on P-256, anything on
X25519. -/
def acceptsPublic : Curve → Bytes → Bool
  | .p256, bytes => (P256.decode? bytes).isSome
  | .x25519, _ => true

/-- Whether bytes of the private length are a private key: a number from one to the order of the group
less one on P-256, anything on X25519. -/
def acceptsPrivate : Curve → Bytes → Bool
  | .p256, bytes => 0 < Bytes.toNat bytes && Bytes.toNat bytes < P256.groupOrder
  | .x25519, _ => true

/-- The encoded public key of an encoded private key. -/
def derive : Curve → Bytes → Bytes
  | .p256, bytes => P256.publicKey (Bytes.toNat bytes)
  | .x25519, bytes => X25519.publicKey bytes

/-- A private key of a curve: bytes of its private length that it accepts.  What a random draw of a
private key yields is one of these. -/
def Scalar (c : Curve) : Type :=
  { bytes : Bytes // bytes.length = c.privateKeyLength ∧ c.acceptsPrivate bytes = true }

instance (c : Curve) : Inhabited c.Scalar :=
  match c with
  | .p256 => ⟨⟨Bytes.ofNat 32 1, by decide⟩⟩
  | .x25519 => ⟨⟨Bytes.ofNat 32 1, by decide⟩⟩

end Curve

/-- The curve of the classical key that goes with keys of a class. -/
def KeyClass.curve : KeyClass → Option Curve
  | .signature | .kem => none
  | .ecpHybridKem => some .p256
  | .ecxHybridKem => some .x25519

/-- A class is hybrid exactly when it has a curve. -/
theorem KeyClass.isSome_curve (c : KeyClass) : c.curve.isSome = c.isHybrid := by
  cases c <;> rfl

end HybridKeys
