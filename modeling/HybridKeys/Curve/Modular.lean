/-
Module: HybridKeys.Curve.Modular
Purpose: Arithmetic modulo a number, on its least residues.
Main exports: Modular.add, sub, mul, bits, pow, inverse
-/

namespace HybridKeys.Modular

def add (m a b : Nat) : Nat :=
  (a + b) % m

def sub (m a b : Nat) : Nat :=
  (a + (m - b % m)) % m

def mul (m a b : Nat) : Nat :=
  a * b % m

/-- The `width` low bits of a number, most significant first. -/
def bits : Nat → Nat → List Bool
  | 0, _ => []
  | width + 1, number => number.testBit width :: bits width number

/-- The number that bits write, most significant first. -/
def ofBits (digits : List Bool) : Nat :=
  digits.foldl (fun number digit => 2 * number + digit.toNat) 0

/-- A power whose exponent is written in bits: square, and multiply where the bit is set. -/
def pow (m a : Nat) (exponent : List Bool) : Nat :=
  exponent.foldl
    (fun power digit =>
      let square := mul m power power
      if digit then mul m square a else square)
    (1 % m)

/-- The inverse modulo a prime, by Fermat's little theorem; zero has zero for its inverse. -/
def inverse (m a : Nat) : Nat :=
  pow m a (bits (m.log2 + 1) (m - 2))

@[simp] theorem length_bits (width number : Nat) : (bits width number).length = width := by
  induction width with
  | zero => rfl
  | succ width ih => simp [bits, ih]

@[simp] theorem ofBits_concat (digits : List Bool) (digit : Bool) :
    ofBits (digits ++ [digit]) = 2 * ofBits digits + digit.toNat := by
  simp [ofBits]

end HybridKeys.Modular
