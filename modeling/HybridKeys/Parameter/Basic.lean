/-
Module: HybridKeys.Parameter.Basic
Purpose: Named, typed parameters, the currency between a host and its keys.
Main exports: Parameter.Kind, Parameter.Value, Parameter, Parameter.fill, Parameter.dump
-/
import HybridKeys.Bytes
import HybridKeys.Text.Dump

namespace HybridKeys

namespace Parameter

inductive Kind where
  | int
  | utf8
  | octets
deriving DecidableEq, Repr, Inhabited

def Kind.label : Kind → String
  | .int => "Int"
  | .utf8 => "Utf8"
  | .octets => "Octets"

/-- A value, or the empty slot of a request that a getter is to fill. -/
inductive Value where
  | unset
  | int (number : Int64)
  | utf8 (text : String)
  | octets (bytes : Bytes)
deriving DecidableEq, Repr, Inhabited

namespace Value

/-- The kind of a value; an empty slot has none. -/
def kind? : Value → Option Kind
  | .unset => none
  | .int _ => some .int
  | .utf8 _ => some .utf8
  | .octets _ => some .octets

def int? : Value → Option Int64
  | .int number => some number
  | _ => none

def utf8? : Value → Option String
  | .utf8 text => some text
  | _ => none

/-- The bytes, if the value is an octet string. -/
def octets? : Value → Option Bytes
  | .octets bytes => some bytes
  | _ => none

/-- The diagnostic text of a value.  Of an octet string it shows the length only. -/
def dump : Value → String
  | .unset => "Unset"
  | .int number => "Int(" ++ toString number ++ ")"
  | .utf8 text => "Utf8(" ++ Dump.quoted text ++ ")"
  | .octets bytes => "Octets(len=" ++ toString bytes.length ++ ")"

/-- A count as an integer value; one that is too large becomes the largest integer. -/
def ofCount (count : Nat) : Value :=
  .int (if count ≤ Int64.maxValue.toInt.toNat then Int64.ofNat count else Int64.maxValue)

end Value

/-- An entry of a table of parameters: a name and the kind of value that goes with it. -/
structure Descriptor where
  name : String
  kind : Kind
deriving DecidableEq, Repr, Inhabited

end Parameter

/-- A parameter.  The mark says whether a getter has written to it. -/
structure Parameter where
  name : String
  value : Parameter.Value := .unset
  modified : Bool := false
deriving DecidableEq, Repr, Inhabited

namespace Parameter

/-- The empty slot that asks for a value of this name. -/
def request (name : String) : Parameter :=
  { name := name }

/-- A getter's write: the value is replaced and the mark is set. -/
def fill (p : Parameter) (value : Value) : Parameter :=
  { p with value := value, modified := true }

def dump (p : Parameter) : String :=
  Dump.record "Param"
    [("key", Dump.quoted p.name), ("value", p.value.dump), ("modified", Dump.flag p.modified)]

end Parameter

end HybridKeys
