/-
Module: HybridKeys.Curve.X25519
Purpose: The key-agreement function X25519 at its base point.
Main exports: X25519.clamp, X25519.ladder, X25519.publicKey
-/
import HybridKeys.Bytes
import HybridKeys.Curve.Modular

namespace HybridKeys.X25519

/-!
Points are known by their first coordinate `u = x / z` on a Montgomery curve.  The ladder keeps two
neighbouring multiples of the base point, whose difference is the base point itself; from these two the
next two follow without the second coordinate.
-/

def fieldPrime : Nat :=
  0x7fffffffffffffffffffffffffffffffffffffffffffffffffffffffffffffed

/-- The first coordinate of the base point. -/
def baseU : Nat := 9

/-- A quarter of the curve's coefficient less two. -/
def quarterCoefficient : Nat := 121665

def keyWidth : Nat := 32

def add (a b : Nat) : Nat := Modular.add fieldPrime a b

def sub (a b : Nat) : Nat := Modular.sub fieldPrime a b

def mul (a b : Nat) : Nat := Modular.mul fieldPrime a b

/-- Bit 254, the highest bit of every scalar. -/
def highestBit : Nat :=
  0x4000000000000000000000000000000000000000000000000000000000000000

/-- The scalar that a private key stands for: a multiple of eight with this highest bit. -/
def clamp (number : Nat) : Nat :=
  highestBit + number % highestBit / 8 * 8

/-- A point by its first coordinate, as a quotient. -/
structure Point where
  x : Nat
  z : Nat
deriving DecidableEq, Repr, Inhabited

/-- From two points that differ by the base point: the double of the first, and their sum. -/
def doubleAndSum (p q : Point) : Point × Point :=
  let a := add p.x p.z
  let aa := mul a a
  let b := sub p.x p.z
  let bb := mul b b
  let e := sub aa bb
  let da := mul (sub q.x q.z) a
  let cb := mul (add q.x q.z) b
  let sum := add da cb
  let difference := sub da cb
  (⟨mul aa bb, mul e (add aa (mul quarterCoefficient e))⟩,
    ⟨mul sum sum, mul baseU (mul difference difference)⟩)

/-- One bit of the scalar: of the multiples by `n` and `n + 1`, those by `2n` and `2n + 1`, or those by
`2n + 1` and `2n + 2` where the bit is set. -/
def ladderStep (pair : Point × Point) (digit : Bool) : Point × Point :=
  if digit then (doubleAndSum pair.2 pair.1).swap
  else doubleAndSum pair.1 pair.2

/-- The multiple of the base point by a number written in bits. -/
def ladder (scalar : List Bool) : Point :=
  (scalar.foldl ladderStep (⟨1, 0⟩, ⟨baseU, 1⟩)).1

/-- The first coordinate; the point at infinity counts as zero. -/
def Point.coordinate (p : Point) : Nat :=
  mul p.x (Modular.inverse fieldPrime p.z)

/-- The public key of a private key. -/
def publicKey (privateKey : Bytes) : Bytes :=
  let scalar := clamp (Bytes.toNatLittle privateKey)
  Bytes.ofNatLittle keyWidth (ladder (Modular.bits 255 scalar)).coordinate

/-- A public key has the width of keys. -/
@[simp] theorem length_publicKey (privateKey : Bytes) :
    (publicKey privateKey).length = keyWidth := by
  simp [publicKey]

end HybridKeys.X25519
