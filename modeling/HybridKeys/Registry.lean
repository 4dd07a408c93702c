/-
Module: HybridKeys.Registry
Purpose: The registered algorithms, and their look-up by name and class.
Main exports: Registry.Entry, Registry.entries, Registry.table, Registry.search?, Registry.resolve
-/
import HybridKeys.Algorithm

namespace HybridKeys.Registry

/-- A registered name and the primitive behind it. -/
structure Entry where
  name : String
  primitive : Primitive
deriving DecidableEq, Repr, Inhabited

/-- What is registered, grouped by family.  Several names may stand for one primitive. -/
def entries : List Entry :=
  [⟨"kyber512", .mlkem512⟩,
    ⟨"kyber768", .mlkem768⟩,
    ⟨"kyber1024", .mlkem1024⟩,
    ⟨"mlkem512", .mlkem512⟩,
    ⟨"mlkem768", .mlkem768⟩,
    ⟨"mlkem1024", .mlkem1024⟩,
    ⟨"oqs_sig_default", .mldsa65⟩,
    ⟨"dilithium2", .mldsa44⟩,
    ⟨"dilithium3", .mldsa65⟩,
    ⟨"dilithium5", .mldsa87⟩,
    ⟨"mldsa44", .mldsa44⟩,
    ⟨"mldsa65", .mldsa65⟩,
    ⟨"mldsa87", .mldsa87⟩,
    ⟨"falcon512", .falcon512⟩,
    ⟨"falcon1024", .falcon1024⟩,
    ⟨"sphincssha2128fsimple", .sphincsSha2128f⟩,
    ⟨"sphincssha2128ssimple", .sphincsSha2128s⟩,
    ⟨"sphincssha2192fsimple", .sphincsSha2192f⟩,
    ⟨"sphincssha2192ssimple", .sphincsSha2192s⟩,
    ⟨"sphincssha2256fsimple", .sphincsSha2256f⟩,
    ⟨"sphincssha2256ssimple", .sphincsSha2256s⟩]

/-- The entries in the order of their names.  Names are compared character by character, which is also
the order of their bytes. -/
def table : Array Entry :=
  (entries.mergeSort fun first second => first.name ≤ second.name).toArray

/-- The registered names, in the order of the table. -/
def names : List String :=
  table.toList.map Entry.name

/-- The entry of a name among those at positions from `low` to below `high`, by halving the interval:
everything before it has a smaller name, everything after it a larger one. -/
def searchBetween (sorted : Array Entry) (name : String) (low high : Nat) : Option Entry :=
  if low < high then
    let middle := low + (high - low) / 2
    match sorted[middle]? with
    | none => none
    | some entry =>
      if entry.name = name then some entry
      else if entry.name < name then searchBetween sorted name (middle + 1) high
      else searchBetween sorted name low middle
  else none
termination_by high - low

/-- The entry of a name in the table. -/
def search? (name : String) : Option Entry :=
  searchBetween table name 0 table.size

/-- Resolve a name for a class of keys.  The name must be registered for the family of the class. -/
def resolve (name : String) (keyClass : KeyClass) : Except Error Algorithm :=
  match search? name with
  | none => .error (.unknownAlgorithm name)
  | some entry =>
    if entry.primitive.family = keyClass.family then
      .ok { name := entry.name, keyClass := keyClass, primitive := entry.primitive }
    else .error (.unknownAlgorithm name)

end HybridKeys.Registry
