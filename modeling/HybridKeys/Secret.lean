/-
Module: HybridKeys.Secret
Purpose: Bytes that no diagnostic text shows.
Main exports: Secret, Secret.zeroed, Secret.write, Secret.copyOf, Secret.copyGiven, Secret.zeroize,
  Secret.constantTimeEq, Secret.dump
-/
import HybridKeys.Check

namespace HybridKeys

structure Secret where
  bytes : Bytes
deriving DecidableEq, Inhabited

namespace Secret

def zeroed (memory : Memory) (length : Nat) : Except Error Secret :=
  Secret.mk <$> Check.allocate memory "secret buffer" length

def length (s : Secret) : Nat :=
  s.bytes.length

def isEmpty (s : Secret) : Bool :=
  s.bytes.isEmpty

/-- The secret with bytes written over it from an offset on. -/
def write (s : Secret) (offset : Nat) (source : Bytes) : Secret :=
  ⟨s.bytes.overwrite offset source⟩

def copyOf (memory : Memory) (bytes : Bytes) : Except Error Secret := do
  return (← zeroed memory bytes.length).write 0 bytes

/-- A secret copy of bytes that there may be none of. -/
def copyGiven (memory : Memory) (bytes : Option Bytes) : Except Error (Option Secret) :=
  bytes.mapM (copyOf memory)

/-- What is left after erasure: nothing. -/
def zeroize (_ : Secret) : Secret :=
  ⟨[]⟩

/-- Equality of secrets in a time that depends on their lengths only. -/
def constantTimeEq (s t : Secret) : Bool :=
  Bytes.constantTimeEq s.bytes t.bytes

/-- The diagnostic text of a secret: its length. -/
def dump (s : Secret) : String :=
  "SecretVec(len=" ++ toString s.length ++ ", [REDACTED])"

theorem zeroed_eq (memory : Memory) (length : Nat) :
    zeroed memory length =
      if memory.grants "secret buffer" length then .ok ⟨List.replicate length 0⟩
      else .error (.allocationFailure "secret buffer") := by
  rw [zeroed, Check.allocate_eq]
  split <;> rfl

/-- A secret that can be had holds the bytes that were copied. -/
theorem copyOf_eq (memory : Memory) (bytes : Bytes) :
    copyOf memory bytes =
      if memory.grants "secret buffer" bytes.length then .ok ⟨bytes⟩
      else .error (.allocationFailure "secret buffer") := by
  rw [copyOf, zeroed_eq]
  split
  · exact congrArg (Except.ok ∘ Secret.mk) (Bytes.overwrite_all List.length_replicate)
  · rfl

theorem copyGiven_eq (memory : Memory) (bytes : Option Bytes) :
    copyGiven memory bytes =
      if memory.grantsBytes "secret buffer" bytes then .ok (bytes.map mk)
      else .error (.allocationFailure "secret buffer") := by
  cases bytes with
  | none => rfl
  | some bytes =>
      rw [copyGiven, Option.mapM_some, copyOf_eq, Memory.grantsBytes_some]
      split <;> rfl

/-- The constant-time comparison decides equality. -/
@[simp] theorem constantTimeEq_iff (s t : Secret) : s.constantTimeEq t = true ↔ s = t := by
  cases s
  cases t
  simp [constantTimeEq]

end Secret

end HybridKeys
