/-
Module: HybridKeys.Parameter.Set
Purpose: Ordered sets of parameters, read and filled by name.
Main exports: ParameterSet, find?, fill, readOctets, readText
-/
import HybridKeys.Error
import HybridKeys.Parameter.Basic

namespace HybridKeys

/-!
A set may hold several parameters of one name.  Every reader and every writer means the first of
them; the others are carried along.
-/

structure ParameterSet where
  parameters : List Parameter := []
deriving DecidableEq, Repr, Inhabited

namespace ParameterSet

def empty : ParameterSet := {}

/-- Empty slots that ask for the names, in order. -/
def request (names : List String) : ParameterSet :=
  ⟨names.map Parameter.request⟩

/-- The set with a parameter more, at the end. -/
def push (set : ParameterSet) (p : Parameter) : ParameterSet :=
  ⟨set.parameters ++ [p]⟩

/-- The set with an octet string more, at the end. -/
def pushBytes (set : ParameterSet) (name : String) (bytes : Bytes) : ParameterSet :=
  set.push { name := name, value := .octets bytes }

def size (set : ParameterSet) : Nat :=
  set.parameters.length

def isEmpty (set : ParameterSet) : Bool :=
  set.parameters.isEmpty

def names (set : ParameterSet) : List String :=
  set.parameters.map Parameter.name

def find? (set : ParameterSet) (name : String) : Option Parameter :=
  set.parameters.find? fun p => p.name = name

/-- A list of parameters with the first one of a name filled. -/
def fillFirst (name : String) (value : Parameter.Value) : List Parameter → List Parameter
  | [] => []
  | p :: rest =>
      if p.name = name then p.fill value :: rest else p :: fillFirst name value rest

/-- The set with the first parameter of a name filled; without one of that name, the set as it is. -/
def fill (set : ParameterSet) (name : String) (value : Parameter.Value) : ParameterSet :=
  ⟨fillFirst name value set.parameters⟩

/-- The octet string of a name.  No parameter of the name is no value; a parameter of another kind is
an error. -/
def readOctets (set : ParameterSet) (name : String) : Except Error (Option Bytes) :=
  match set.find? name with
  | none => .ok none
  | some p =>
    match p.value.octets? with
    | some bytes => .ok (some bytes)
    | none => .error (.invalidInput name "expected an octet string")

/-- The text of a name.  No parameter of the name is no value; a parameter of another kind is an
error. -/
def readText (set : ParameterSet) (name : String) : Except Error (Option String) :=
  match set.find? name with
  | none => .ok none
  | some p =>
    match p.value.utf8? with
    | some text => .ok (some text)
    | none => .error (.invalidInput name "expected a UTF-8 string")

def dump (set : ParameterSet) : String :=
  Dump.record "ParamSet" [("params", Dump.list (set.parameters.map Parameter.dump))]

/-- Filling keeps the names and their order. -/
@[simp] theorem names_fill (set : ParameterSet) (name : String) (value : Parameter.Value) :
    (set.fill name value).names = set.names := by
  rcases set with ⟨parameters⟩
  simp only [names, fill]
  induction parameters with
  | nil => rfl
  | cons p rest ih =>
    by_cases same : p.name = name <;> simp [fillFirst, same, Parameter.fill, ih]

/-- After a fill the first parameter of the name is the filled one. -/
@[simp] theorem find?_fill_self (set : ParameterSet) (name : String) (value : Parameter.Value) :
    (set.fill name value).find? name = (set.find? name).map (·.fill value) := by
  rcases set with ⟨parameters⟩
  simp only [find?, fill]
  induction parameters with
  | nil => rfl
  | cons p rest ih =>
    by_cases same : p.name = name <;> simp [fillFirst, same, Parameter.fill, ih]

/-- A fill is not seen under another name. -/
theorem find?_fill_of_ne (set : ParameterSet) {name asked : String} (value : Parameter.Value)
    (other : asked ≠ name) : (set.fill name value).find? asked = set.find? asked := by
  rcases set with ⟨parameters⟩
  simp only [find?, fill]
  induction parameters with
  | nil => rfl
  | cons p rest ih =>
    by_cases same : p.name = name
    · simp [fillFirst, same, Parameter.fill, Ne.symm other]
    · simp only [fillFirst, same, if_false, List.find?_cons, ih]

end ParameterSet

end HybridKeys
