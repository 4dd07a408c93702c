/-
Module: HybridKeys.Proofs.FirstParameters
Purpose: What is read out of a parameter set under a name is the value of the first parameter of the name.
Main exports: ParameterSet.first?, ParameterSet.FirstFits, ParameterSet.readFirst,
  readOctets_eq_ok_iff, readText_eq_ok_iff, AgreeOn, AgreeOn.readOctets_eq, AgreeOn.readText_eq,
  PassedOver, find?_insert_of_passedOver
-/
import HybridKeys.Parameter.Set

namespace HybridKeys.ParameterSet

/-!
Texts and octet strings are read in one way: the first parameter of a name counts, whatever comes after it,
and it has to be of the kind that is asked for.  No parameter of the name is no value, and no error.
-/

variable {α : Type} {accessor : Parameter.Value → Option α} {message name : String}
  {set : ParameterSet}

/-- What the first parameter of a name holds, seen as one kind of value. -/
def first? (set : ParameterSet) (accessor : Parameter.Value → Option α) (name : String) : Option α :=
  (set.find? name).bind fun p => accessor p.value

/-- The first parameter of a name, where there is one, is of the kind. -/
def FirstFits (set : ParameterSet) (accessor : Parameter.Value → Option α) (name : String) : Prop :=
  ∀ p, set.find? name = some p → ∃ found, accessor p.value = some found

/-- What reading an octet string and reading a text have in common. -/
def readFirst (set : ParameterSet) (accessor : Parameter.Value → Option α) (message name : String) :
    Except Error (Option α) :=
  match set.find? name with
  | none => .ok none
  | some p =>
    match accessor p.value with
    | some found => .ok (some found)
    | none => .error (.invalidInput name message)

theorem readOctets_eq_readFirst (set : ParameterSet) (name : String) :
    set.readOctets name =
      set.readFirst Parameter.Value.octets? "expected an octet string" name := by
  unfold readOctets readFirst
  cases set.find? name with
  | none => rfl
  | some p => cases held : p.value.octets? <;> simp only [held]

theorem readText_eq_readFirst (set : ParameterSet) (name : String) :
    set.readText name = set.readFirst Parameter.Value.utf8? "expected a UTF-8 string" name := by
  unfold readText readFirst
  cases set.find? name with
  | none => rfl
  | some p => cases held : p.value.utf8? <;> simp only [held]

/-- A reading succeeds exactly when the first parameter is of the kind, and gives what it holds. -/
theorem readFirst_eq_ok_iff {found : Option α} :
    set.readFirst accessor message name = .ok found ↔
      set.FirstFits accessor name ∧ found = set.first? accessor name := by
  unfold readFirst FirstFits first?
  cases set.find? name with
  | none => simp [eq_comm]
  | some p => cases held : accessor p.value <;> simp [held, eq_comm]

theorem readOctets_eq_ok_iff {found : Option Bytes} :
    set.readOctets name = .ok found ↔
      set.FirstFits Parameter.Value.octets? name ∧
        found = set.first? Parameter.Value.octets? name := by
  rw [readOctets_eq_readFirst, readFirst_eq_ok_iff]

theorem readText_eq_ok_iff {found : Option String} :
    set.readText name = .ok found ↔
      set.FirstFits Parameter.Value.utf8? name ∧ found = set.first? Parameter.Value.utf8? name := by
  rw [readText_eq_readFirst, readFirst_eq_ok_iff]

theorem readOctets_of_first {bytes : Bytes}
    (first : set.first? Parameter.Value.octets? name = some bytes) :
    set.readOctets name = .ok (some bytes) := by
  obtain ⟨p, found, octets⟩ := Option.bind_eq_some_iff.1 first
  rw [readOctets, found]
  simp only [octets]

theorem readText_of_absent (absent : set.find? name = none) :
    set.readText name = .ok none := by
  rw [readText, absent]

/-! ### Sets that read the same -/

/-- The value of the first parameter of a name. -/
def firstValue? (set : ParameterSet) (name : String) : Option Parameter.Value :=
  (set.find? name).map Parameter.value

/-- The first parameters of each of the names have one value in both sets, or are in neither.  Their marks
may differ, and so may all else. -/
def AgreeOn (names : List String) (set other : ParameterSet) : Prop :=
  ∀ name ∈ names, set.firstValue? name = other.firstValue? name

theorem AgreeOn.of_find?_eq {names : List String} {other : ParameterSet}
    (same : ∀ name ∈ names, set.find? name = other.find? name) : AgreeOn names set other := by
  intro name asked
  rw [firstValue?, firstValue?, same name asked]

/-- A reading depends on nothing but the first value. -/
theorem readFirst_congr {other : ParameterSet}
    (same : set.firstValue? name = other.firstValue? name) :
    set.readFirst accessor message name = other.readFirst accessor message name := by
  have byValue : ∀ it : ParameterSet, it.readFirst accessor message name =
      match it.firstValue? name with
      | none => .ok none
      | some value =>
        match accessor value with
        | some found => .ok (some found)
        | none => .error (.invalidInput name message) := by
    intro it
    unfold readFirst firstValue?
    cases it.find? name <;> rfl
  rw [byValue, byValue, same]

theorem AgreeOn.readOctets_eq {names : List String} {other : ParameterSet}
    (agree : AgreeOn names set other) (asked : name ∈ names) :
    set.readOctets name = other.readOctets name := by
  rw [readOctets_eq_readFirst, readOctets_eq_readFirst, readFirst_congr (agree name asked)]

theorem AgreeOn.readText_eq {names : List String} {other : ParameterSet}
    (agree : AgreeOn names set other) (asked : name ∈ names) :
    set.readText name = other.readText name := by
  rw [readText_eq_readFirst, readText_eq_readFirst, readFirst_congr (agree name asked)]

/-! ### Parameters that do not count -/

/-- A parameter that no reading under any of the names comes to: it has another name, or it stands behind
one of its own. -/
def PassedOver (names : List String) (before : List Parameter) (p : Parameter) : Prop :=
  p.name ∈ names → ∃ earlier ∈ before, earlier.name = p.name

/-- It makes no difference whether a parameter that is passed over is in the set. -/
theorem find?_insert_of_passedOver {names : List String} {before after : List Parameter}
    {p : Parameter} (passedOver : PassedOver names before p) (asked : name ∈ names) :
    find? ⟨before ++ p :: after⟩ name = find? ⟨before ++ after⟩ name := by
  simp only [find?, List.find?_append, List.find?_cons]
  by_cases same : p.name = name
  · obtain ⟨earlier, member, named⟩ := passedOver (same ▸ asked)
    have met : (before.find? fun q => q.name = name).isSome := by
      rw [List.find?_isSome]
      exact ⟨earlier, member, by simp [named, same]⟩
    obtain ⟨first, found⟩ := Option.isSome_iff_exists.1 met
    rw [found, Option.some_or, Option.some_or]
  · simp [same]

end HybridKeys.ParameterSet
