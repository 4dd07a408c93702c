/-
Module: HybridKeys.Provider
Purpose: What the keys of one provider have in common.
Main exports: Provider, Provider.dump
-/
import HybridKeys.Text.Dump

namespace HybridKeys

/-- A provider of keys: its name, and the property query of those of its keys that have none of their
own. -/
structure Provider where
  name : Option String := none
  propertyQuery : Option String := none
deriving DecidableEq, Repr, Inhabited

def Provider.dump (p : Provider) : String :=
  Dump.record "ProviderContext"
    [("name", Dump.option (p.name.map Dump.quoted)),
      ("property_query", Dump.option (p.propertyQuery.map Dump.quoted))]

end HybridKeys
