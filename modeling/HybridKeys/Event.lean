/-
Module: HybridKeys.Event
Purpose: The events by which operations announce themselves to a log.
Main exports: Event, Event.Level, Event.level, Event.message, Event.fields
-/
import HybridKeys.KeyClass
import HybridKeys.Selection

namespace HybridKeys

/-- What an operation announces: what is about to be done, to a key of which algorithm, and for which
parts.  No constructor has room for key bytes or for the value of a parameter. -/
inductive Event where
  | keyNew (algorithm : String) (keyClass : KeyClass)
  | keyGenerate (algorithm : String)
  | keyHas (algorithm : String) (selection : Selection)
  | keyMatch (algorithm : String) (selection : Selection)
  | keyImport (algorithm : String) (selection : Selection)
  | keyExport (algorithm : String) (selection : Selection)
  | keyFree (algorithm : String)
  | getParameters (algorithm : String)
  | setParameters (algorithm : String)
  | generationInit (algorithm : String) (keyClass : KeyClass) (selection : Selection)
  | generationSetParameters (algorithm : String)
  | generation (algorithm : String)
  | generationCleanup (algorithm : String)
  | adapterFetch (adapter : String)
  | adapterLoad (adapter : String)
  | nullKeyFree (adapter : String)
deriving DecidableEq, Repr

namespace Event

/-- How much detail a log must ask for to see an event. -/
inductive Level where
  | debug
  | trace
deriving DecidableEq, Repr

def Level.label : Level → String
  | .debug => "DEBUG"
  | .trace => "TRACE"

/-- The level of an event.  Queries, and calls without effect, are for the finer log. -/
def level : Event → Level
  | .keyHas _ _ | .keyMatch _ _ | .nullKeyFree _ => .trace
  | _ => .debug

def message : Event → String
  | .keyNew _ _ => "key new"
  | .keyGenerate _ => "key generate"
  | .keyHas _ _ => "key has"
  | .keyMatch _ _ => "key match"
  | .keyImport _ _ => "key import"
  | .keyExport _ _ => "key export"
  | .keyFree _ => "key free"
  | .getParameters _ => "get params"
  | .setParameters _ => "set params"
  | .generationInit _ _ _ => "gen init"
  | .generationSetParameters _ => "gen set params"
  | .generation _ => "gen"
  | .generationCleanup _ => "gen cleanup"
  | .adapterFetch _ => "keymgmt fetch"
  | .adapterLoad _ => "keymgmt load"
  | .nullKeyFree _ => "free of null key"

/-- The data of an event by name. -/
def fields : Event → List (String × String)
  | .keyNew algorithm keyClass => [("algorithm", algorithm), ("key_type", keyClass.label)]
  | .keyHas algorithm selection
  | .keyMatch algorithm selection
  | .keyImport algorithm selection
  | .keyExport algorithm selection =>
      [("algorithm", algorithm), ("selection", selection.dump)]
  | .keyGenerate algorithm
  | .keyFree algorithm
  | .getParameters algorithm
  | .setParameters algorithm
  | .generationSetParameters algorithm
  | .generation algorithm
  | .generationCleanup algorithm => [("algorithm", algorithm)]
  | .generationInit algorithm keyClass selection =>
      [("algorithm", algorithm), ("key_type", keyClass.label), ("selection", selection.dump)]
  | .adapterFetch adapter | .adapterLoad adapter | .nullKeyFree adapter => [("adapter", adapter)]

end Event

end HybridKeys
