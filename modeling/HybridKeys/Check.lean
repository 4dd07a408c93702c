/-
Module: HybridKeys.Check
Purpose: Checks that answer with an error.
Main exports: Check.length, Check.that, Check.present, Check.allocate, Check.copy, Check.text,
  Check.copyGiven, Check.textGiven
-/
import HybridKeys.Bytes
import HybridKeys.Error
import HybridKeys.Memory

namespace HybridKeys.Check

def length (context : String) (actual expected : Nat) : Except Error Unit :=
  if actual = expected then .ok () else .error (.mismatchedLength context expected actual)

def that (condition : Bool) (context message : String) : Except Error Unit :=
  if condition then .ok () else .error (.invalidInput context message)

def present {α : Type} (value : Option α) (context : String) : Except Error α :=
  match value with
  | some value => .ok value
  | none => .error (.nullKey context)

/-- There is memory for so many bytes. -/
def room (memory : Memory) (context : String) (length : Nat) : Except Error Unit :=
  if memory.grants context length then .ok () else .error (.allocationFailure context)

/-- A new buffer of zero bytes. -/
def allocate (memory : Memory) (context : String) (length : Nat) : Except Error Bytes := do
  room memory context length
  return List.replicate length 0

/-- A new buffer with the given bytes. -/
def copy (memory : Memory) (context : String) (bytes : Bytes) : Except Error Bytes := do
  return (← allocate memory context bytes.length).overwrite 0 bytes

/-- A new copy of a text. -/
def text (memory : Memory) (context value : String) : Except Error String := do
  room memory context value.utf8ByteSize
  return value

/-- A copy of bytes that there may be none of. -/
def copyGiven (memory : Memory) (context : String) (bytes : Option Bytes) :
    Except Error (Option Bytes) :=
  bytes.mapM (copy memory context)

/-- A copy of a text that there may be none of. -/
def textGiven (memory : Memory) (context : String) (value : Option String) :
    Except Error (Option String) :=
  value.mapM (text memory context)

@[simp] theorem length_eq_ok_iff {context : String} {actual expected : Nat} {u : Unit} :
    length context actual expected = .ok u ↔ actual = expected := by
  unfold length
  split <;> simp_all

@[simp] theorem that_eq_ok_iff {condition : Bool} {context message : String} {u : Unit} :
    that condition context message = .ok u ↔ condition = true := by
  unfold that
  split <;> simp_all

theorem length_eq_error_iff {context : String} {actual expected : Nat} {e : Error} :
    length context actual expected = .error e ↔
      actual ≠ expected ∧ e = .mismatchedLength context expected actual := by
  unfold length
  split <;> simp_all [eq_comm]

theorem that_eq_error_iff {condition : Bool} {context message : String} {e : Error} :
    that condition context message = .error e ↔
      condition = false ∧ e = .invalidInput context message := by
  unfold that
  split <;> simp_all [eq_comm]

/-- A chain of checks succeeds when the first does and what follows its answer does. -/
theorem bind_eq_ok_iff {α β : Type} {first : Except Error α} {next : α → Except Error β}
    {answer : β} :
    (first >>= next) = .ok answer ↔ ∃ value, first = .ok value ∧ next value = .ok answer := by
  cases first <;> simp [bind, Except.bind]

/-- A chain of checks fails with the first, or with what follows its answer. -/
theorem bind_eq_error_iff {α β : Type} {first : Except Error α} {next : α → Except Error β}
    {e : Error} :
    (first >>= next) = .error e ↔
      first = .error e ∨ ∃ value, first = .ok value ∧ next value = .error e := by
  cases first <;> simp [bind, Except.bind]

theorem map_eq_ok_iff {α β : Type} {change : α → β} {check : Except Error α} {answer : β} :
    change <$> check = .ok answer ↔ ∃ value, check = .ok value ∧ change value = answer := by
  cases check <;> simp [Functor.map, Except.map]

/-! ### What can be had -/

variable {memory : Memory} {context : String}

/-- What depends on one answer of the allocator is there when the answer is yes. -/
theorem granted_eq_ok_iff {α : Type} {granted : Bool} {value answer : α} {e : Error} :
    (if granted then Except.ok value else .error e) = .ok answer ↔ granted = true ∧ answer = value := by
  cases granted <;> simp [eq_comm]

/-- A buffer that can be had holds zero bytes only. -/
theorem allocate_eq (memory : Memory) (context : String) (size : Nat) :
    allocate memory context size =
      if memory.grants context size then .ok (List.replicate size 0)
      else .error (.allocationFailure context) := by
  unfold allocate room
  split <;> rfl

/-- A copy that can be had is equal to what was copied: the write covers the new buffer. -/
theorem copy_eq (memory : Memory) (context : String) (bytes : Bytes) :
    copy memory context bytes =
      if memory.grants context bytes.length then .ok bytes
      else .error (.allocationFailure context) := by
  rw [copy, allocate_eq]
  split
  · exact congrArg Except.ok (Bytes.overwrite_all List.length_replicate)
  · rfl

theorem text_eq (memory : Memory) (context value : String) :
    text memory context value =
      if memory.grants context value.utf8ByteSize then .ok value
      else .error (.allocationFailure context) := by
  unfold text room
  split <;> rfl

theorem copyGiven_eq (memory : Memory) (context : String) (bytes : Option Bytes) :
    copyGiven memory context bytes =
      if memory.grantsBytes context bytes then .ok bytes else .error (.allocationFailure context) := by
  cases bytes with
  | none => rfl
  | some bytes =>
      rw [copyGiven, Option.mapM_some, copy_eq, Memory.grantsBytes_some]
      split <;> rfl

theorem textGiven_eq (memory : Memory) (context : String) (value : Option String) :
    textGiven memory context value =
      if memory.grantsText context value then .ok value else .error (.allocationFailure context) := by
  cases value with
  | none => rfl
  | some value =>
      rw [textGiven, Option.mapM_some, text_eq, Memory.grantsText_some]
      split <;> rfl

theorem allocate_eq_ok_iff {size : Nat} {buffer : Bytes} :
    allocate memory context size = .ok buffer ↔
      memory.grants context size = true ∧ buffer = List.replicate size 0 := by
  rw [allocate_eq, granted_eq_ok_iff]

end HybridKeys.Check
