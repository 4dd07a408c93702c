/-
Module: HybridKeys.Memory
Purpose: What memory a call can have.
Main exports: Memory, Memory.grantsBytes, Memory.grantsText, Memory.addressable, Memory.exhaustedFor
-/
import HybridKeys.Bytes

namespace HybridKeys

/-!
A call that needs a new buffer says what it is for and how long it is to be, and goes without if the
allocator has none.  No call asks twice for one length under one purpose, so a function of the two has an
answer of its own for every request of a call, and each of them may be refused while the others are
granted.  What one call finds says nothing about the next, which comes with answers of its own.
-/

/-- The answers of an allocator during one call. -/
structure Memory where
  grants (purpose : String) (length : Nat) : Bool
  /-- No bytes are always to be had. -/
  grants_nothing : ∀ purpose, grants purpose 0 = true

namespace Memory

variable {memory : Memory} {purpose : String}

/-- There is memory for a copy of bytes, if there are any to copy. -/
def grantsBytes (memory : Memory) (purpose : String) (bytes : Option Bytes) : Bool :=
  bytes.all fun bytes => memory.grants purpose bytes.length

/-- There is memory for a copy of a text, if there is one to copy. -/
def grantsText (memory : Memory) (purpose : String) (text : Option String) : Bool :=
  text.all fun text => memory.grants purpose text.utf8ByteSize

@[simp] theorem grantsBytes_none : memory.grantsBytes purpose none = true := rfl

@[simp] theorem grantsBytes_some (bytes : Bytes) :
    memory.grantsBytes purpose (some bytes) = memory.grants purpose bytes.length := rfl

@[simp] theorem grantsText_none : memory.grantsText purpose none = true := rfl

@[simp] theorem grantsText_some (text : String) :
    memory.grantsText purpose (some text) = memory.grants purpose text.utf8ByteSize := rfl

/-- All memory that a signed word of 64 bits can count, but for its greatest value. -/
def addressable : Memory where
  grants _ length := length < 0x7fffffffffffffff
  grants_nothing _ := rfl

theorem addressable_grants {length : Nat} (small : length < 0x7fffffffffffffff) :
    addressable.grants purpose length = true :=
  decide_eq_true small

/-- Memory that runs out at one purpose. -/
def exhaustedFor (purpose : String) : Memory where
  grants asked length := asked ≠ purpose || length = 0
  grants_nothing _ := Bool.or_eq_true_iff.2 (.inr rfl)

theorem exhaustedFor_grants_of_ne {purpose asked : String} (other : asked ≠ purpose) (length : Nat) :
    (exhaustedFor purpose).grants asked length = true :=
  Bool.or_eq_true_iff.2 (.inl (decide_eq_true other))

end Memory

end HybridKeys
