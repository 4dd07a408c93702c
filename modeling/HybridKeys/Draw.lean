/-
Module: HybridKeys.Draw
Purpose: The random choices of one key generation, as data.
Main exports: Draw
-/
import HybridKeys.Curve.Basic
import HybridKeys.Primitive

namespace HybridKeys

/-- What the sources of randomness hand to one key generation: the key pair that the library makes,
which may be of any lengths, and for each curve a private key for a fresh classical key pair. -/
structure Draw where
  keyPair : KeyPair
  scalar : (curve : Curve) → curve.Scalar

end HybridKeys
