/-
Module: HybridKeys.Proofs.OpenSlots
Purpose: A parameter set that is open at the first slot of a name, what writing there does, and what a name
  holds after any pushes and fills.
Main exports: Parameter.Value.as?, OpenSlot, ParameterSet.open?, open?_eq_some_iff, fill_close,
  find?_eq_map_open?, Edit, names_edited, find?_edited, FilledAt, LensLaws, first_slots_are_lenses
-/
import HybridKeys.Parameter.Name
import HybridKeys.Proofs.FirstParameters
import HybridKeys.Proofs.SlotPositions
import Mathlib.Data.List.Induction

namespace HybridKeys

/-!
To read under a name and to write under it are two searches.  The second one ends at a slot that is open:
the set is taken apart into what stands before the slot, the slot, and what stands after it, and it is put
together again once the slot is written.  A set can be taken apart in one way only so that the slot has the
name and nothing before it has.  So the searches cannot end at different slots, and a write has nothing
else to reach.
-/

/-! ### Contents of one kind -/

namespace Parameter

/-- What a value of the kind holds. -/
abbrev Kind.Content : Kind → Type
  | .int => Int64
  | .utf8 => String
  | .octets => Bytes

namespace Value

def ofKind : (kind : Kind) → kind.Content → Value
  | .int, number => .int number
  | .utf8, text => .utf8 text
  | .octets, bytes => .octets bytes

/-- What the value holds, if it is of the kind. -/
def as? (kind : Kind) (value : Value) : Option kind.Content :=
  match kind with
  | .int => value.int?
  | .utf8 => value.utf8?
  | .octets => value.octets?

variable {kind other : Kind} {content : kind.Content} {value : Value}

theorem kind?_ofKind : (ofKind kind content).kind? = some kind := by
  cases kind <;> rfl

theorem isSome_as?_iff : (value.as? kind).isSome ↔ value.kind? = some kind := by
  cases kind <;> cases value <;> simp [as?, kind?, int?, utf8?, octets?]

theorem as?_ofKind : (ofKind kind content).as? kind = some content := by
  cases kind <;> rfl

/-- A value is of one kind only. -/
theorem as?_ofKind_of_ne (apart : other ≠ kind) : (ofKind kind content).as? other = none := by
  rw [← Option.not_isSome_iff_eq_none, isSome_as?_iff, kind?_ofKind]
  intro same
  exact apart (Option.some.inj same).symm

end Value

end Parameter

/-! ### Open slots -/

/-- A set that is open at its first slot of a name. -/
structure OpenSlot (name : String) where
  before : List Parameter
  held : Parameter
  after : List Parameter
  named : held.name = name
  first : ∀ p ∈ before, p.name ≠ name

namespace OpenSlot

variable {name : String}

def position (slot : OpenSlot name) : ℕ :=
  slot.before.length

/-- The set, put together again. -/
def close (slot : OpenSlot name) : ParameterSet :=
  ⟨slot.before ++ slot.held :: slot.after⟩

/-- The slot written by a getter, and still open. -/
def fill (slot : OpenSlot name) (value : Parameter.Value) : OpenSlot name :=
  { slot with held := slot.held.fill value }

/-- The slot with one of another name in front of all that stands before it. -/
def behind (p : Parameter) (other : p.name ≠ name) (slot : OpenSlot name) : OpenSlot name :=
  { slot with
    before := p :: slot.before
    first := List.forall_mem_cons.2 ⟨other, slot.first⟩ }

end OpenSlot

namespace ParameterSet

variable {set : ParameterSet} {name : String}

/-- Search a list for the first slot of a name, and open it. -/
def openFirst (name : String) : List Parameter → Option (OpenSlot name)
  | [] => none
  | p :: rest =>
    if named : p.name = name then
      some { before := [], held := p, after := rest, named := named, first := by simp }
    else
      (openFirst name rest).map (OpenSlot.behind p named)

/-- The set, open at its first slot of a name. -/
def open? (set : ParameterSet) (name : String) : Option (OpenSlot name) :=
  openFirst name set.parameters

/-- To open a set and to close it again changes nothing. -/
theorem close_of_open? {slot : OpenSlot name} (opened : set.open? name = some slot) :
    slot.close = set := by
  obtain ⟨parameters⟩ := set
  rw [open?] at opened
  dsimp only at opened
  induction parameters generalizing slot with
  | nil => cases opened
  | cons p rest inductionHypothesis =>
      rw [openFirst] at opened
      split at opened
      · cases opened
        rfl
      · obtain ⟨inRest, found, rfl⟩ := Option.map_eq_some_iff.1 opened
        have closed := congrArg parameters (inductionHypothesis found)
        exact congrArg (fun tail => ParameterSet.mk (p :: tail)) closed

/-- A set that was closed opens where it was open. -/
theorem open?_close (slot : OpenSlot name) : slot.close.open? name = some slot := by
  obtain ⟨before, held, after, named, first⟩ := slot
  rw [open?, OpenSlot.close]
  dsimp only
  induction before with
  | nil => rw [List.nil_append, openFirst, dif_pos named]
  | cons p rest inductionHypothesis =>
      obtain ⟨other, restFirst⟩ := List.forall_mem_cons.1 first
      rw [List.cons_append, openFirst, dif_neg other, inductionHypothesis restFirst]
      rfl

/-- A set is opened in the one way in which it can be taken apart. -/
theorem open?_eq_some_iff {slot : OpenSlot name} : set.open? name = some slot ↔ slot.close = set := by
  constructor
  · exact close_of_open?
  · rintro rfl
    exact open?_close slot

/-- There is nothing to open exactly when no slot has the name. -/
theorem open?_eq_none_iff : set.open? name = none ↔ name ∉ set.names := by
  obtain ⟨parameters⟩ := set
  rw [open?, names]
  dsimp only
  induction parameters with
  | nil => simp [openFirst]
  | cons p rest inductionHypothesis =>
      rw [openFirst]
      split
      next same => simp [same]
      next other => simpa [Ne.symm other] using inductionHypothesis

end ParameterSet

/-! ### Reading and writing at the open slot -/

namespace OpenSlot

variable {name : String} (slot : OpenSlot name) (value : Parameter.Value)

theorem names_close :
    slot.close.names = slot.before.map Parameter.name ++ name :: slot.after.map Parameter.name := by
  rw [close, ParameterSet.names, List.map_append, List.map_cons, slot.named]

theorem firstAt_close : slot.close.FirstAt slot.position name := by
  have length : slot.position = (slot.before.map Parameter.name).length :=
    (List.length_map Parameter.name).symm
  rw [ParameterSet.FirstAt, names_close, length]
  constructor
  · rw [List.getElem?_append_right (Nat.le_refl _), Nat.sub_self, List.getElem?_cons_zero]
  · rw [List.take_left]
    simpa using slot.first

/-- A look-up finds the slot that is open. -/
theorem find?_close : slot.close.find? name = some slot.held := by
  have absent : slot.before.find? (fun p => p.name = name) = none := by
    rw [List.find?_eq_none]
    simpa using slot.first
  rw [close, ParameterSet.find?, List.find?_append, absent, Option.none_or, List.find?_cons_of_pos]
  exact decide_eq_true slot.named

/-- A fill writes the slot that is open. -/
theorem fill_close : slot.close.fill name value = (slot.fill value).close := by
  obtain ⟨before, held, after, named, first⟩ := slot
  apply congrArg ParameterSet.mk
  simp only [close, fill]
  induction before with
  | nil => rw [List.nil_append, ParameterSet.fillFirst, if_pos named, List.nil_append]
  | cons p rest inductionHypothesis =>
      obtain ⟨other, restFirst⟩ := List.forall_mem_cons.1 first
      rw [List.cons_append, ParameterSet.fillFirst, if_neg other, inductionHypothesis restFirst,
        List.cons_append]

end OpenSlot

namespace ParameterSet

variable {set : ParameterSet} {name : String} {p : Parameter} {i : ℕ}

/-- The search that reads and the search that writes end at the same slot. -/
theorem find?_eq_map_open? (set : ParameterSet) (name : String) :
    set.find? name = (set.open? name).map OpenSlot.held := by
  cases opened : set.open? name with
  | none =>
      rw [open?_eq_none_iff] at opened
      rw [find?, Option.map_none, List.find?_eq_none]
      simpa [names] using opened
  | some slot =>
      rw [← close_of_open? opened]
      exact slot.find?_close

/-- A look-up finds the slot of least index that has the name. -/
theorem find?_eq_some_iff_firstAt :
    set.find? name = some p ↔ ∃ i, set.FirstAt i name ∧ set.parameters[i]? = some p := by
  constructor
  · intro found
    rw [find?_eq_map_open?] at found
    obtain ⟨slot, opened, rfl⟩ := Option.map_eq_some_iff.1 found
    have first := slot.firstAt_close
    have read := find?_eq_getElem?_of_firstAt first
    rw [slot.find?_close] at read
    rw [close_of_open? opened] at first read
    exact ⟨slot.position, first, read.symm⟩
  · rintro ⟨i, first, held⟩
    exact (find?_eq_getElem?_of_firstAt first).trans held

/-! ### Runs of edits -/

/-- A pushed parameter is found where its name was not found before. -/
theorem find?_push (set : ParameterSet) (p : Parameter) (name : String) :
    (set.push p).find? name = (set.find? name).or (if p.name = name then some p else none) := by
  rw [push, find?, List.find?_append, find?, List.find?_singleton]
  simp only [decide_eq_true_eq]

/-- What a host can do to a set: push a parameter, or fill the first slot of a name. -/
inductive Edit where
  | push (p : Parameter)
  | fill (name : String) (value : Parameter.Value)

namespace Edit

def apply (set : ParameterSet) : Edit → ParameterSet
  | .push p => set.push p
  | .fill name value => set.fill name value

/-- The name of the parameter that is pushed, if one is. -/
def pushed? : Edit → Option String
  | .push p => some p.name
  | .fill _ _ => none

/-- The value that is filled in under the name, if one is. -/
def filled? (name : String) : Edit → Option Parameter.Value
  | .push _ => none
  | .fill other value => if other = name then some value else none

end Edit

/-- The set after edits, one after another. -/
def edited (set : ParameterSet) (edits : List Edit) : ParameterSet :=
  edits.foldl Edit.apply set

/-- The last of the values that the edits fill in under the name. -/
def lastFilled? (name : String) (edits : List Edit) : Option Parameter.Value :=
  (edits.filterMap (Edit.filled? name)).getLast?

theorem edited_concat (set : ParameterSet) (edits : List Edit) (edit : Edit) :
    set.edited (edits ++ [edit]) = edit.apply (set.edited edits) :=
  List.foldl_append

theorem lastFilled?_concat (name : String) (edits : List Edit) (edit : Edit) :
    lastFilled? name (edits ++ [edit]) = (edit.filled? name).or (lastFilled? name edits) := by
  rw [lastFilled?, List.filterMap_append, List.getLast?_append, lastFilled?]
  cases filled : edit.filled? name <;> simp [filled]

/-- An edit adds the name that it pushes, and moves no other. -/
theorem names_apply (set : ParameterSet) (edit : Edit) :
    (edit.apply set).names = set.names ++ edit.pushed?.toList := by
  cases edit with
  | push p => exact List.map_append
  | fill name value => exact (names_fill set name value).trans (List.append_nil _).symm

/-- So does a run of edits. -/
theorem names_edited (set : ParameterSet) (edits : List Edit) :
    (set.edited edits).names = set.names ++ edits.filterMap Edit.pushed? := by
  induction edits using List.reverseRecOn with
  | nil => exact (List.append_nil _).symm
  | append_singleton edits edit inductionHypothesis =>
      rw [edited_concat, names_apply, inductionHypothesis, List.append_assoc, List.filterMap_append]
      cases pushed : edit.pushed? <;> simp [pushed]

/-- What is found under a name is found after an edit too, with the value that the edit fills in, if it fills
one in. -/
theorem find?_apply (found : set.find? name = some p) (edit : Edit) :
    (edit.apply set).find? name = some ((edit.filled? name).elim p p.fill) := by
  cases edit with
  | push q => rw [Edit.apply, find?_push, found, Option.some_or, Edit.filled?, Option.elim_none]
  | fill other value =>
      rw [Edit.apply, Edit.filled?]
      by_cases same : other = name
      · rw [same, find?_fill_self, found, if_pos rfl, Option.map_some, Option.elim_some]
      · rw [find?_fill_of_ne set value (Ne.symm same), found, if_neg same, Option.elim_none]

/-- A run of edits leaves the first slot of a name where it is. -/
theorem FirstAt.edited (first : set.FirstAt i name) (edits : List Edit) :
    (set.edited edits).FirstAt i name := by
  obtain ⟨named, notBefore⟩ := first
  have inside : i < set.names.length := (List.getElem?_eq_some_iff.1 named).1
  rw [FirstAt, names_edited, List.getElem?_append_left inside,
    List.take_append_of_le_length (Nat.le_of_lt inside)]
  exact ⟨named, notBefore⟩

/-- After a run of edits it has the last value that was filled in, or else the one that it had. -/
theorem find?_edited (found : set.find? name = some p) (edits : List Edit) :
    (set.edited edits).find? name = some ((lastFilled? name edits).elim p p.fill) := by
  -- Edits are taken off at the end, since a later fill covers an earlier one.
  induction edits using List.reverseRecOn with
  | nil => exact found
  | append_singleton edits edit inductionHypothesis =>
      rw [edited_concat, find?_apply inductionHypothesis, lastFilled?_concat]
      cases edit.filled? name with
      | none => rfl
      | some value => cases lastFilled? name edits <;> rfl

/-! ### The laws -/

/-- A set after its slot at a position, the first one of a name, was filled. -/
structure FilledAt (set : ParameterSet) (i : ℕ) (name : String) (value : Parameter.Value)
    (after : ParameterSet) : Prop where
  first : set.FirstAt i name
  /-- A look-up finds the value, with the mark set, whatever stood there before. -/
  found : after.find? name = some { name := name, value := value, modified := true }
  /-- All other slots are as they were, the later ones of the name among them. -/
  others : ∀ j, j ≠ i → after.parameters[j]? = set.parameters[j]?
  size : after.size = set.size
  names : after.names = set.names
  elsewhere : ∀ asked, asked ≠ name → after.find? asked = set.find? asked

theorem size_fill (set : ParameterSet) (name : String) (value : Parameter.Value) :
    (set.fill name value).size = set.size := by
  have kept := congrArg List.length (names_fill set name value)
  rwa [names, names, List.length_map, List.length_map] at kept

/-- A fill under a name that can be opened leaves a set as it is described. -/
theorem filledAt_fill {slot : OpenSlot name} (opened : set.open? name = some slot)
    (value : Parameter.Value) : set.FilledAt slot.position name value (set.fill name value) := by
  have first : set.FirstAt slot.position name := close_of_open? opened ▸ slot.firstAt_close
  constructor
  case first => exact first
  case found =>
    rw [find?_fill_self, find?_eq_map_open?, opened, Option.map_some, Option.map_some, Parameter.fill,
      slot.named]
  case others =>
    intro j apart
    apply getElem?_fill_of_not_firstAt
    intro second
    exact apart (second.position_eq first)
  case size => exact size_fill set name value
  case names => exact names_fill set name value
  case elsewhere =>
    intro asked apart
    exact find?_fill_of_ne set value apart

/-- One set, and no other, is what a fill is described to leave. -/
theorem FilledAt.unique {value : Parameter.Value} {after after' : ParameterSet}
    (one : set.FilledAt i name value after) (two : set.FilledAt i name value after') :
    after = after' := by
  have first : after.FirstAt i name := by
    rw [FirstAt, one.names]
    exact one.first
  have first' : after'.FirstAt i name := by
    rw [FirstAt, two.names]
    exact two.first
  -- What stands at the position itself is what a look-up finds there.
  apply eq_of_getElem?
  intro j
  by_cases here : j = i
  · rw [here, ← find?_eq_getElem?_of_firstAt first, ← find?_eq_getElem?_of_firstAt first', one.found,
      two.found]
  · rw [one.others j here, two.others j here]

/-- The laws of reading and writing under one name. -/
structure LensLaws (set : ParameterSet) (name : String) : Prop where
  /-- A look-up finds the slot of least index that has the name. -/
  found : ∀ p, set.find? name = some p ↔ ∃ i, set.FirstAt i name ∧ set.parameters[i]? = some p
  /-- The search that opens a slot ends where a look-up ends. -/
  opened : set.find? name = (set.open? name).map OpenSlot.held
  /-- To close a set is to undo its opening. -/
  closed : ∀ slot : OpenSlot name, set.open? name = some slot ↔ slot.close = set
  /-- Nothing is opened only where no slot has the name, and then nothing is filled. -/
  unopened : set.open? name = none ↔ name ∉ set.names
  absent : set.open? name = none → ∀ value, set.fill name value = set
  /-- To fill is to open, to write, and to close.  A value can be read as one of its own kind only. -/
  filled : ∀ slot, set.open? name = some slot → ∀ (kind : Parameter.Kind) (content : kind.Content),
    let after := set.fill name (.ofKind kind content)
    after = (slot.fill (.ofKind kind content)).close ∧
      (∀ result, set.FilledAt slot.position name (.ofKind kind content) result ↔ result = after) ∧
      after.first? (Parameter.Value.as? kind) name = some content ∧
      ∀ other, other ≠ kind → after.first? (Parameter.Value.as? other) name = none
  again : ∀ value value', (set.fill name value).fill name value' = set.fill name value'
  commutes : ∀ other, other ≠ name → ∀ value value',
    (set.fill name value).fill other value' = (set.fill other value').fill name value
  pushed : ∀ p, (set.find? name).isSome → (set.push p).find? name = set.find? name
  /-- Whatever is pushed and filled in under any names, the first slot of the name stays where it is and
  holds the last value that was filled in under the name. -/
  edited : ∀ edits i p, set.FirstAt i name → set.parameters[i]? = some p →
    (set.edited edits).FirstAt i name ∧
      (set.edited edits).parameters[i]? = some ((lastFilled? name edits).elim p p.fill)

/-- A name is a lens into a set: it is read and written at one slot, the first one that has it. -/
theorem first_slots_are_lenses (set : ParameterSet) (name : String) : set.LensLaws name := by
  constructor
  case found =>
    intro p
    exact find?_eq_some_iff_firstAt
  case opened => exact find?_eq_map_open? set name
  case closed =>
    intro slot
    exact open?_eq_some_iff
  case unopened => exact open?_eq_none_iff
  case absent =>
    intro nothing
    exact fill_of_notMem (open?_eq_none_iff.1 nothing)
  case filled =>
    intro slot opened kind content after
    have filledAt := filledAt_fill opened (.ofKind kind content)
    refine ⟨?_, ?_, ?_, ?_⟩
    · rw [← slot.fill_close, close_of_open? opened]
    · intro result
      exact ⟨fun described => described.unique filledAt, fun same => same ▸ filledAt⟩
    · rw [first?, filledAt.found]
      exact Parameter.Value.as?_ofKind
    · intro other apart
      rw [first?, filledAt.found]
      exact Parameter.Value.as?_ofKind_of_ne apart
  case again => exact fill_fill_self set name
  case commutes =>
    intro other apart
    exact fill_fill_comm set apart
  case pushed =>
    intro p found
    obtain ⟨q, held⟩ := Option.isSome_iff_exists.1 found
    rw [find?_push, held, Option.some_or]
  case edited =>
    intro edits i p first held
    have stays := first.edited edits
    have found := find?_edited ((find?_eq_getElem?_of_firstAt first).trans held) edits
    rw [find?_eq_getElem?_of_firstAt stays] at found
    exact ⟨stays, found⟩

/-- Two slots of one name stand behind one of another name.  The first of the two held a text and is filled
with bytes, and the second one is left alone.  Then a third one is pushed and the name is filled once
more. -/
theorem lens_of_repeated_name :
    let slots : List Parameter :=
      [.request ParameterName.bits, ⟨ParameterName.publicKey, .utf8 "old", false⟩,
        ⟨ParameterName.publicKey, .int 2, false⟩]
    let after : ParameterSet := (⟨slots⟩ : ParameterSet).fill ParameterName.publicKey (.octets [7])
    (open? ⟨slots⟩ ParameterName.publicKey).map OpenSlot.position = some 1 ∧
      after.find? ParameterName.publicKey = some ⟨ParameterName.publicKey, .octets [7], true⟩ ∧
      after.first? Parameter.Value.utf8? ParameterName.publicKey = none ∧
      after.parameters[2]? = some ⟨ParameterName.publicKey, .int 2, false⟩ ∧
      (edited ⟨slots⟩ [.fill ParameterName.publicKey (.octets [7]),
        .push (.request ParameterName.publicKey), .fill ParameterName.bits (.int 128),
        .fill ParameterName.publicKey (.int 3)]).parameters[1]? =
          some ⟨ParameterName.publicKey, .int 3, true⟩ := by
  intro slots after
  have laws := first_slots_are_lenses ⟨slots⟩ ParameterName.publicKey
  let slot : OpenSlot ParameterName.publicKey :=
    { before := slots.take 1
      held := ⟨ParameterName.publicKey, .utf8 "old", false⟩
      after := slots.drop 2
      named := rfl
      first := by decide }
  have opened : open? ⟨slots⟩ ParameterName.publicKey = some slot := (laws.closed slot).2 rfl
  obtain ⟨-, described, -, otherKinds⟩ := laws.filled slot opened .octets [7]
  have filledAt := (described after).2 rfl
  refine ⟨by rw [opened]; rfl, filledAt.found, otherKinds .utf8 (by decide),
    filledAt.others 2 (by decide), ?_⟩
  exact (laws.edited _ 1 _ filledAt.first rfl).2

end ParameterSet

end HybridKeys
