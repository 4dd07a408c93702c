/-
Module: HybridKeys.Primitive
Purpose: The post-quantum primitives: their names, sizes and strength, and how their keygen is run.
Main exports: KeyPair, Primitive, strength, fillBuffers, Primitive.kems, Primitive.signatures
-/
import HybridKeys.Action
import HybridKeys.Check

namespace HybridKeys

/-- A public and a secret key, or the buffers for them. -/
structure KeyPair where
  publicKey : Bytes
  secretKey : Bytes
deriving DecidableEq, Inhabited

/-- What is declared about a post-quantum primitive. -/
structure Primitive where
  name : String
  family : Family
  /-- The claimed category of security, from 1 to 5. -/
  level : Nat
  publicKeyLength : Nat
  secretKeyLength : Nat
  /-- The length of a ciphertext, or the largest length of a signature. -/
  maxOutputLength : Nat
deriving DecidableEq, Repr, Inhabited

namespace Primitive

/-- The strength of the claimed category in bits of a classical cipher. -/
def strength (p : Primitive) : Nat :=
  if p.level ≤ 2 then 128 else if p.level ≤ 4 then 192 else 256

/-- Run the library's keygen and copy what it made into two buffers of the declared lengths.  The
library turns its random state into a key pair and the next state; it is only asked when both buffers
fit, and the buffers are only written when it made keys of their lengths. -/
def fillBuffers {τ : Type} (p : Primitive) (library : τ → KeyPair × τ) :
    Action (KeyPair × τ) Unit := do
  let (buffers, random) ← Action.get
  Check.length p.name buffers.publicKey.length p.publicKeyLength
  Check.length p.name buffers.secretKey.length p.secretKeyLength
  let (made, random) := library random
  Action.update fun (buffers, _) => (buffers, random)
  if made.publicKey.length = buffers.publicKey.length ∧
      made.secretKey.length = buffers.secretKey.length then
    Action.update fun (_, random) => (made, random)
  else
    Action.fail (.generationFailure p.name "primitive returned keys of unexpected length")

/-!
### The table

The lengths of a primitive are those that the library behind it reports of itself: `public_key_bytes` and
`secret_key_bytes`, and for the largest output `ciphertext_bytes` or `signature_bytes`.  What is shown of
keys is shown for any lengths; that the largest outputs can be written as integers is all that depends on
the numbers.
-/

def mlkem512 : Primitive := ⟨"ML-KEM-512", .kem, 1, 800, 1632, 768⟩

def mlkem768 : Primitive := ⟨"ML-KEM-768", .kem, 3, 1184, 2400, 1088⟩

def mlkem1024 : Primitive := ⟨"ML-KEM-1024", .kem, 5, 1568, 3168, 1568⟩

def mldsa44 : Primitive := ⟨"ML-DSA-44", .signature, 2, 1312, 2560, 2420⟩

def mldsa65 : Primitive := ⟨"ML-DSA-65", .signature, 3, 1952, 4032, 3309⟩

def mldsa87 : Primitive := ⟨"ML-DSA-87", .signature, 5, 2592, 4896, 4627⟩

def falcon512 : Primitive := ⟨"Falcon-512", .signature, 1, 897, 1281, 752⟩

def falcon1024 : Primitive := ⟨"Falcon-1024", .signature, 5, 1793, 2305, 1462⟩

def sphincsSha2128f : Primitive := ⟨"SPHINCS+-SHA2-128f-simple", .signature, 1, 32, 64, 17088⟩

def sphincsSha2128s : Primitive := ⟨"SPHINCS+-SHA2-128s-simple", .signature, 1, 32, 64, 7856⟩

def sphincsSha2192f : Primitive := ⟨"SPHINCS+-SHA2-192f-simple", .signature, 3, 48, 96, 35664⟩

def sphincsSha2192s : Primitive := ⟨"SPHINCS+-SHA2-192s-simple", .signature, 3, 48, 96, 16224⟩

def sphincsSha2256f : Primitive := ⟨"SPHINCS+-SHA2-256f-simple", .signature, 5, 64, 128, 49856⟩

def sphincsSha2256s : Primitive := ⟨"SPHINCS+-SHA2-256s-simple", .signature, 5, 64, 128, 29792⟩

def kems : List Primitive :=
  [mlkem512, mlkem768, mlkem1024]

def signatures : List Primitive :=
  [mldsa44, mldsa65, mldsa87, falcon512, falcon1024, sphincsSha2128f, sphincsSha2128s,
    sphincsSha2192f, sphincsSha2192s, sphincsSha2256f, sphincsSha2256s]

/-- The first buffer of a wrong length is refused, and then the library is not asked.  Otherwise it is asked
once, and what it made reaches the buffers if it has their lengths. -/
theorem run_fillBuffers {τ : Type} (p : Primitive) (library : τ → KeyPair × τ) (buffers : KeyPair)
    (random : τ) :
    (p.fillBuffers library).run (buffers, random) =
      if buffers.publicKey.length ≠ p.publicKeyLength then
        ⟨.error (.mismatchedLength p.name p.publicKeyLength buffers.publicKey.length),
          (buffers, random), []⟩
      else if buffers.secretKey.length ≠ p.secretKeyLength then
        ⟨.error (.mismatchedLength p.name p.secretKeyLength buffers.secretKey.length),
          (buffers, random), []⟩
      else if (library random).1.publicKey.length = buffers.publicKey.length ∧
          (library random).1.secretKey.length = buffers.secretKey.length then
        ⟨.ok (), library random, []⟩
      else
        ⟨.error (.generationFailure p.name "primitive returned keys of unexpected length"),
          (buffers, (library random).2), []⟩ := by
  by_cases publicBuffer : buffers.publicKey.length = p.publicKeyLength
  · by_cases secretBuffer : buffers.secretKey.length = p.secretKeyLength
    · by_cases made : (library random).1.publicKey.length = p.publicKeyLength ∧
          (library random).1.secretKey.length = p.secretKeyLength
      · simp [fillBuffers, Check.length, publicBuffer, secretBuffer, made]
      · simp [fillBuffers, Check.length, publicBuffer, secretBuffer, made]
    · simp [fillBuffers, Check.length, publicBuffer, secretBuffer]
  · simp [fillBuffers, Check.length, publicBuffer]

end Primitive

end HybridKeys
