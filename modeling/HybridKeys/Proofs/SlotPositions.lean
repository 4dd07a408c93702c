/-
Module: HybridKeys.Proofs.SlotPositions
Purpose: The slots of a parameter set by their positions: to which one a fill goes, and what it leaves alone.
Main exports: ParameterSet.FirstAt, find?_eq_getElem?_of_firstAt, getElem?_fill,
  getElem?_fill_of_firstAt, getElem?_fill_of_not_firstAt, fill_fill_self, fill_fill_comm, slotsOf,
  slotsOf_fill, Rearranged, Rearranged.fill
-/
import HybridKeys.Parameter.Set

namespace HybridKeys.ParameterSet

/-!
A fill goes to one position: that of the first slot of its name.  Where that is depends on the names
alone, and a fill keeps the names.  So after any number of fills the first slots are where they were, and
each fill can be told by its position.

The order of slots matters only among slots of one name.  Two sets that have the same slots of every name,
in the same order, differ in nothing that a fill or a look-up depends on.
-/

variable {set other : ParameterSet} {name asked : String} {value : Parameter.Value}
  {p : Parameter} {rest : List Parameter} {i j : Nat}

/-! ### Positions -/

/-- The slot at the position is the first one of the name. -/
def FirstAt (set : ParameterSet) (i : Nat) (name : String) : Prop :=
  set.names[i]? = some name ∧ name ∉ set.names.take i

instance : Decidable (set.FirstAt i name) :=
  inferInstanceAs (Decidable (_ ∧ _))

theorem firstAt_zero_iff : FirstAt ⟨p :: rest⟩ 0 name ↔ p.name = name := by
  simp [FirstAt, names]

theorem firstAt_succ_iff :
    FirstAt ⟨p :: rest⟩ (i + 1) name ↔ p.name ≠ name ∧ FirstAt ⟨rest⟩ i name := by
  simp only [FirstAt, names, List.map_cons, List.getElem?_cons_succ, List.take_succ_cons,
    List.mem_cons, not_or, ne_comm]
  exact and_left_comm

/-- Only one name has its first slot at a position. -/
theorem FirstAt.name_eq (one : set.FirstAt i name) (two : set.FirstAt i asked) : name = asked :=
  Option.some.inj (one.1.symm.trans two.1)

/-- No name has its first slot before a position where it has its first slot. -/
theorem FirstAt.le (one : set.FirstAt i name) (two : set.FirstAt j name) : i ≤ j := by
  rw [← Nat.not_lt]
  intro before
  apply one.2
  apply List.mem_of_getElem?
  rw [List.getElem?_take_of_lt before]
  exact two.1

/-- A name has its first slot at one position only. -/
theorem FirstAt.position_eq (one : set.FirstAt i name) (two : set.FirstAt j name) : i = j :=
  Nat.le_antisymm (one.le two) (two.le one)

/-- A look-up reads the first slot of its name. -/
theorem find?_eq_getElem?_of_firstAt (first : set.FirstAt i name) :
    set.find? name = set.parameters[i]? := by
  obtain ⟨parameters⟩ := set
  rw [find?]
  dsimp only
  induction parameters generalizing i with
  | nil => rfl
  | cons p rest inductionHypothesis =>
      cases i with
      | zero => simp [firstAt_zero_iff.1 first]
      | succ i =>
          obtain ⟨other, firstInRest⟩ := firstAt_succ_iff.1 first
          simpa [other] using inductionHypothesis firstInRest

/-- A fill writes the first slot of its name and no other. -/
theorem getElem?_fill (set : ParameterSet) (name : String) (value : Parameter.Value) (i : Nat) :
    (set.fill name value).parameters[i]? =
      if set.FirstAt i name then set.parameters[i]?.map (·.fill value) else set.parameters[i]? := by
  obtain ⟨parameters⟩ := set
  rw [fill]
  dsimp only
  induction parameters generalizing i with
  | nil => simp [fillFirst]
  | cons p rest inductionHypothesis =>
      cases i with
      | zero => by_cases same : p.name = name <;> simp [fillFirst, firstAt_zero_iff, same]
      | succ i =>
          by_cases same : p.name = name
          · simp [fillFirst, firstAt_succ_iff, same]
          · simp [fillFirst, firstAt_succ_iff, same, inductionHypothesis]

theorem getElem?_fill_of_firstAt (first : set.FirstAt i name) :
    (set.fill name value).parameters[i]? = set.parameters[i]?.map (·.fill value) := by
  rw [getElem?_fill, if_pos first]

theorem getElem?_fill_of_not_firstAt (other : ¬ set.FirstAt i name) :
    (set.fill name value).parameters[i]? = set.parameters[i]? := by
  rw [getElem?_fill, if_neg other]

/-! ### Fills, one after another -/

/-- A fill does not move the first slot of any name. -/
theorem firstAt_fill_iff : (set.fill name value).FirstAt i asked ↔ set.FirstAt i asked := by
  rw [FirstAt, names_fill, FirstAt]

theorem eq_of_getElem? (same : ∀ i : Nat, set.parameters[i]? = other.parameters[i]?) : set = other := by
  obtain ⟨parameters⟩ := set
  exact congrArg ParameterSet.mk (List.ext_getElem? same)

/-- Without a slot of the name a fill changes nothing. -/
theorem fill_of_notMem (absent : name ∉ set.names) (value : Parameter.Value) :
    set.fill name value = set := by
  apply eq_of_getElem?
  intro i
  apply getElem?_fill_of_not_firstAt
  intro first
  exact absent (List.mem_of_getElem? first.1)

/-- Of two fills under one name the second one counts. -/
theorem fill_fill_self (set : ParameterSet) (name : String) (value value' : Parameter.Value) :
    (set.fill name value).fill name value' = set.fill name value' := by
  apply eq_of_getElem?
  intro i
  by_cases first : set.FirstAt i name
  · rw [getElem?_fill_of_firstAt (firstAt_fill_iff.2 first), getElem?_fill_of_firstAt first,
      getElem?_fill_of_firstAt first, Option.map_map]
    rfl
  · rw [getElem?_fill_of_not_firstAt (mt firstAt_fill_iff.1 first),
      getElem?_fill_of_not_firstAt first, getElem?_fill_of_not_firstAt first]

/-- Fills under different names can be made in either order. -/
theorem fill_fill_comm (set : ParameterSet) (apart : asked ≠ name) (value value' : Parameter.Value) :
    (set.fill name value).fill asked value' = (set.fill asked value').fill name value := by
  apply eq_of_getElem?
  intro i
  rw [getElem?_fill, getElem?_fill, getElem?_fill, getElem?_fill]
  simp only [firstAt_fill_iff]
  by_cases first : set.FirstAt i name
  · have elsewhere : ¬ set.FirstAt i asked := fun second => apart (second.name_eq first)
    simp only [first, elsewhere, if_true, if_false]
  · simp only [first, if_false]

/-! ### Slots of one name -/

/-- The slots of a name, in order. -/
def slotsOf (set : ParameterSet) (name : String) : List Parameter :=
  set.parameters.filter fun p => p.name = name

/-- A look-up finds the first slot of the name. -/
theorem find?_eq_head?_slotsOf (set : ParameterSet) (name : String) :
    set.find? name = (set.slotsOf name).head? :=
  (List.head?_filter ..).symm

/-- A fill is a fill of the first slot of its name, whatever stands between the slots of that name. -/
theorem slotsOf_fill (set : ParameterSet) (name asked : String) (value : Parameter.Value) :
    (set.fill name value).slotsOf asked =
      if asked = name then (set.slotsOf asked).modifyHead (·.fill value) else set.slotsOf asked := by
  obtain ⟨parameters⟩ := set
  simp only [slotsOf, fill]
  induction parameters with
  | nil => simp [fillFirst]
  | cons p rest inductionHypothesis =>
      by_cases same : p.name = name
      · by_cases here : asked = name
        · simp [fillFirst, same, here, Parameter.fill]
        · simp [fillFirst, same, here, Parameter.fill, Ne.symm here]
      · by_cases here : p.name = asked
        · have elsewhere : asked ≠ name := here ▸ same
          simpa [fillFirst, here, elsewhere] using inductionHypothesis
        · simp [fillFirst, same, here, inductionHypothesis]

/-- The sets have the same slots of every name, in the same order.  Slots of different names may stand in
any order. -/
def Rearranged (set other : ParameterSet) : Prop :=
  ∀ name, set.slotsOf name = other.slotsOf name

theorem Rearranged.find?_eq (same : set.Rearranged other) (name : String) :
    set.find? name = other.find? name := by
  rw [find?_eq_head?_slotsOf, find?_eq_head?_slotsOf, same name]

/-- A fill does not look at the order of slots of different names. -/
theorem Rearranged.fill (same : set.Rearranged other) (name : String) (value : Parameter.Value) :
    (set.fill name value).Rearranged (other.fill name value) := by
  intro asked
  rw [slotsOf_fill, slotsOf_fill, same asked]

end HybridKeys.ParameterSet
