/-
Module: HybridKeys.Curve.P256
Purpose: The elliptic curve P-256: its points, their encoding, and the multiples of its base point.
Main exports: P256.OnCurve, P256.Point, P256.multiplyBase, P256.encode, P256.decode?
-/
import HybridKeys.Bytes
import HybridKeys.Curve.Modular

namespace HybridKeys.P256

/-!
The curve is `y² = x³ - 3x + b` over the integers modulo a prime.  A point at a finite place is a pair
of residues; multiples are computed in Jacobian coordinates, where `(x, y, z)` stands for the point
`(x / z², y / z³)` and `z = 0` for the point at infinity, so that one inversion is enough.
-/

def fieldPrime : Nat :=
  0xffffffff00000001000000000000000000000000ffffffffffffffffffffffff

/-- The number of points of the curve, a prime. -/
def groupOrder : Nat :=
  0xffffffff00000000ffffffffffffffffbce6faada7179e84f3b9cac2fc632551

/-- The constant term of the equation. -/
def constantTerm : Nat :=
  0x5ac635d8aa3a93e7b3ebbd55769886bc651d06b0cc53b0f63bce3c3e27d2604b

def baseX : Nat :=
  0x6b17d1f2e12c4247f8bce6e563a440f277037d812deb33a0f4a13945d898c296

def baseY : Nat :=
  0x4fe342e2fe1a7f9b8ee7eb4a7c0f9e162bce33576b315ececbb6406837bf51f5

/-- The number of bytes of a residue. -/
def fieldWidth : Nat := 32

/-! ### Residues -/

def add (a b : Nat) : Nat := Modular.add fieldPrime a b

def sub (a b : Nat) : Nat := Modular.sub fieldPrime a b

def mul (a b : Nat) : Nat := Modular.mul fieldPrime a b

def inverse (a : Nat) : Nat := Modular.inverse fieldPrime a

/-- Two residues are the coordinates of a finite point of the curve. -/
def OnCurve (x y : Nat) : Prop :=
  x < fieldPrime ∧ y < fieldPrime ∧
    mul y y = add (sub (mul (mul x x) x) (mul 3 x)) constantTerm

instance (x y : Nat) : Decidable (OnCurve x y) :=
  inferInstanceAs (Decidable (_ ∧ _ ∧ _))

/-! ### Points and multiples -/

/-- A point in Jacobian coordinates. -/
structure Point where
  x : Nat
  y : Nat
  z : Nat
deriving DecidableEq, Repr, Inhabited

namespace Point

def infinity : Point := ⟨1, 1, 0⟩

def ofAffine (x y : Nat) : Point := ⟨x, y, 1⟩

def base : Point := ofAffine baseX baseY

/-- The point added to itself, along the tangent. -/
def double (p : Point) : Point :=
  let delta := mul p.z p.z
  let gamma := mul p.y p.y
  let beta := mul p.x gamma
  let alpha := mul 3 (mul (sub p.x delta) (add p.x delta))
  let x := sub (mul alpha alpha) (mul 8 beta)
  let y := sub (mul alpha (sub (mul 4 beta) x)) (mul 8 (mul gamma gamma))
  let z := mul 2 (mul p.y p.z)
  ⟨x, y, z⟩

/-- The point with a finite point added, along the chord; along the tangent where the two are one. -/
def addAffine (p : Point) (qx qy : Nat) : Point :=
  if p.z = 0 then ofAffine qx qy
  else
    let zz := mul p.z p.z
    let h := sub (mul qx zz) p.x
    let r := sub (mul qy (mul zz p.z)) p.y
    if h = 0 then
      if r = 0 then p.double else infinity
    else
      let hh := mul h h
      let hhh := mul hh h
      let v := mul p.x hh
      let x := sub (sub (mul r r) hhh) (mul 2 v)
      let y := sub (mul r (sub v x)) (mul p.y hhh)
      let z := mul p.z h
      ⟨x, y, z⟩

/-- The coordinates of a finite point; the point at infinity has none. -/
def toAffine? (p : Point) : Option (Nat × Nat) :=
  if p.z = 0 then none
  else
    let zi := inverse p.z
    let zz := mul zi zi
    some (mul p.x zz, mul p.y (mul zz zi))

end Point

/-- The multiple of the base point by a number written in bits: double, and add where the bit is
set. -/
def multiplyBits (scalar : List Bool) : Point :=
  scalar.foldl
    (fun p digit => if digit then p.double.addAffine baseX baseY else p.double)
    Point.infinity

/-- The multiple of the base point by a number below `2 ^ 256`. -/
def multiplyBase (scalar : Nat) : Point :=
  multiplyBits (Modular.bits 256 scalar)

/-! ### Encoding -/

/-- The uncompressed encoding: a tag, then both coordinates; the point at infinity is one zero byte. -/
def encode : Option (Nat × Nat) → Bytes
  | none => [0x00]
  | some (x, y) => 0x04 :: (Bytes.ofNat fieldWidth x ++ Bytes.ofNat fieldWidth y)

/-- The finite point that 65 bytes encode: the tag, and the coordinates of a point of the curve. -/
def decode? (bytes : Bytes) : Option (Nat × Nat) :=
  match bytes with
  | 0x04 :: rest =>
    let x := Bytes.toNat (rest.take fieldWidth)
    let y := Bytes.toNat (rest.drop fieldWidth)
    if rest.length = 2 * fieldWidth ∧ OnCurve x y then some (x, y) else none
  | _ => none

def publicKey (scalar : Nat) : Bytes :=
  encode (multiplyBase scalar).toAffine?

end HybridKeys.P256
