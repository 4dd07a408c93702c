/-
Module: HybridKeys.Error
Purpose: The causes for which an operation on keys fails, and their wording.
Main exports: Error, kindName, message, dump, inContext
-/
import HybridKeys.Text.Dump

namespace HybridKeys

/-- Why an operation failed. -/
inductive Error where
  /-- The name is not registered for the class of key that was asked for. -/
  | unknownAlgorithm (name : String)
  /-- Memory for key material could not be had. -/
  | allocationFailure (context : String)
  /-- The operation met an absent key or an absent key part. -/
  | nullKey (context : String)
  /-- A parameter is malformed or of the wrong kind. -/
  | invalidInput (context message : String)
  /-- Key generation failed. -/
  | generationFailure (algorithm message : String)
  /-- A length is not the declared one. -/
  | mismatchedLength (context : String) (expected actual : Nat)
deriving DecidableEq, Repr, Inhabited

namespace Error

/-- The name of the kind of error. -/
def kindName : Error → String
  | .unknownAlgorithm _ => "UnknownAlgorithm"
  | .allocationFailure _ => "AllocationFailure"
  | .nullKey _ => "NullKey"
  | .invalidInput _ _ => "InvalidInput"
  | .generationFailure _ _ => "GenerationFailure"
  | .mismatchedLength _ _ _ => "MismatchedLength"

/-- What a reader is told. -/
def message : Error → String
  | .unknownAlgorithm name => "unknown algorithm: " ++ name
  | .allocationFailure context => context ++ ": allocation failed"
  | .nullKey context => context ++ ": key is null"
  | .invalidInput context message => context ++ ": " ++ message
  | .generationFailure algorithm message =>
      "key generation failed for " ++ algorithm ++ ": " ++ message
  | .mismatchedLength context expected actual =>
      context ++ ": invalid length (expected " ++ toString expected ++ ", got " ++
        toString actual ++ ")"

/-- The fields of an error with their dumps. -/
def fields : Error → List (String × String)
  | .unknownAlgorithm name => [("name", Dump.quoted name)]
  | .allocationFailure context => [("context", Dump.quoted context)]
  | .nullKey context => [("context", Dump.quoted context)]
  | .invalidInput context message =>
      [("context", Dump.quoted context), ("message", Dump.quoted message)]
  | .generationFailure algorithm message =>
      [("algorithm", Dump.quoted algorithm), ("message", Dump.quoted message)]
  | .mismatchedLength context expected actual =>
      [("context", Dump.quoted context), ("expected", toString expected),
        ("actual", toString actual)]

/-- The diagnostic text of an error. -/
def dump (e : Error) : String :=
  Dump.record e.kindName e.fields

/-- The error seen from another context.  An error that names an algorithm instead of a context stays
as it is. -/
def inContext (context : String) : Error → Error
  | .allocationFailure _ => .allocationFailure context
  | .nullKey _ => .nullKey context
  | .invalidInput _ message => .invalidInput context message
  | .mismatchedLength _ expected actual => .mismatchedLength context expected actual
  | .unknownAlgorithm name => .unknownAlgorithm name
  | .generationFailure algorithm message => .generationFailure algorithm message

/-- A change of context keeps the kind of the error. -/
@[simp] theorem kindName_inContext (context : String) (e : Error) :
    (e.inContext context).kindName = e.kindName := by
  cases e <;> rfl

/-- Only the last of two changes of context shows. -/
@[simp] theorem inContext_inContext (first second : String) (e : Error) :
    (e.inContext first).inContext second = e.inContext second := by
  cases e <;> rfl

end Error

end HybridKeys
