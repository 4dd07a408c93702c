/-
Module: HybridKeys.Text.Dump
Purpose: The layout of diagnostic text: quoted strings, records, lists and optional values.
Main exports: Dump.quoted, Dump.record, Dump.list, Dump.option, Dump.flag
-/
import HybridKeys.Text.Printable

namespace HybridKeys.Dump

/-!
Every value that can appear in a log has a dump: one line of text made of the shapes below.  The
shapes never look at key bytes; a type that holds some hands in their length or a fixed word.
-/

/-- A character as it stands between quotes.  Quotes, backslashes and the common controls have short
escapes; any other character without a glyph is written as its code point in hexadecimal. -/
def escape : Char → String
  | '"' => "\\\""
  | '\\' => "\\\\"
  | '\n' => "\\n"
  | '\t' => "\\t"
  | '\r' => "\\r"
  | '\x00' => "\\0"
  | c =>
    if Text.isPrintable c then c.toString
    else "\\u\x7b" ++ String.ofList (Nat.toDigits 16 c.toNat) ++ "\x7d"

/-- A string between double quotes. -/
def quoted (text : String) : String :=
  "\"" ++ String.join (text.toList.map escape) ++ "\""

/-- A truth value. -/
def flag (value : Bool) : String :=
  if value then "true" else "false"

/-- A value that may be absent, by the dump of the value that is there. -/
def option : Option String → String
  | none => "None"
  | some dump => "Some(" ++ dump ++ ")"

/-- A sequence of dumps. -/
def list (items : List String) : String :=
  "[" ++ ", ".intercalate items ++ "]"

/-- A record: its name, then each field by label and dump. -/
def record (name : String) (fields : List (String × String)) : String :=
  let shown := fields.map fun field => field.1 ++ ": " ++ field.2
  name ++ " \x7b " ++ ", ".intercalate shown ++ " \x7d"

end HybridKeys.Dump
