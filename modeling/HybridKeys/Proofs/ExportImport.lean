/-
Module: HybridKeys.Proofs.ExportImport
Purpose: What one key exports another one imports, and then exports again.
Main exports: ParameterSet.carrying, Algorithm.SameKeys, Key.HoldsSome, Key.selectedParts,
  Sound.selectedParts, read_exported, Key.Restored, importParts_exported
-/
import HybridKeys.Proofs.KeyComparison
import HybridKeys.Proofs.KeyConsistency

namespace HybridKeys

/-!
An export hands out octet strings and nothing of the classical handle.  The import rebuilds the handle
from the strings, so the round trip rests on the invariant of reachable keys: what they store can be
read, and their handle is the one that a reading gives.  A reading looks at the primitive and the class
of an algorithm only, so the two keys may go by different names.
-/

theorem Selection.contains_keyPair_iff {selection : Selection} :
    selection.contains .keyPair = true ↔
      selection.publicKey = true ∧ selection.privateKey = true := by
  rcases selection with ⟨_ | _, _ | _, _ | _, _ | _⟩ <;> decide

/-! ### Parts as parameters -/

namespace ParameterSet

/-- The set that carries key parts, each under its name. -/
def carrying (publicKey privateKey : Option Bytes) : ParameterSet :=
  let set := publicKey.elim empty (empty.pushBytes ParameterName.publicKey)
  privateKey.elim set (set.pushBytes ParameterName.privateKey)

variable (publicKey privateKey : Option Bytes)

theorem readOctets_carrying_public :
    (carrying publicKey privateKey).readOctets ParameterName.publicKey = .ok publicKey := by
  cases publicKey <;> cases privateKey <;> rfl

theorem readOctets_carrying_private :
    (carrying publicKey privateKey).readOctets ParameterName.privateKey = .ok privateKey := by
  cases publicKey <;> cases privateKey <;> rfl

end ParameterSet

/-! ### Algorithms with the same keys -/

namespace Algorithm

/-- Two names for keys of one kind. -/
structure SameKeys (a b : Algorithm) : Prop where
  primitive : a.primitive = b.primitive
  keyClass : a.keyClass = b.keyClass

namespace SameKeys

variable {a b : Algorithm} (same : a.SameKeys b)
include same

/-- Only the names can differ. -/
theorem eq_renamed : b = { a with name := b.name } := by
  obtain ⟨_, _, _⟩ := b
  obtain ⟨rfl, rfl⟩ := same
  rfl

theorem acceptsPublic {bytes : Bytes} (accepts : a.AcceptsPublic bytes) : b.AcceptsPublic bytes := by
  rw [same.eq_renamed]
  exact ⟨accepts.length, accepts.hybrid⟩

theorem acceptsPrivate {bytes : Bytes} (accepts : a.AcceptsPrivate bytes) :
    b.AcceptsPrivate bytes := by
  rw [same.eq_renamed]
  exact ⟨accepts.length, accepts.hybrid⟩

theorem handle_eq : b.handle = a.handle := by
  rw [same.eq_renamed]
  rfl

end SameKeys

end Algorithm

namespace Key

/-! ### Selected parts -/

/-- A part, if it is selected. -/
def onlyIf {α : Type} (selected : Bool) (part : Option α) : Option α :=
  if selected then part else none

/-- The selection names a part that the key holds. -/
def HoldsSome (key : Key) (selection : Selection) : Prop :=
  (onlyIf selection.publicKey key.publicKey).isSome ∨
    (onlyIf selection.privateKey key.privateKey).isSome

theorem eq_of_onlyIf {α : Type} {selected : Bool} {part : Option α} {value : α}
    (found : onlyIf selected part = some value) : selected = true ∧ part = some value := by
  cases selected with
  | false => cases found
  | true => exact ⟨rfl, found⟩

/-- The selected parts of a key, with the handle that goes with them. -/
def selectedParts (key : Key) (selection : Selection) : Parts :=
  let publicKey := onlyIf selection.publicKey key.publicKey
  let privateKey := onlyIf selection.privateKey key.privateKey
  ⟨publicKey, privateKey, key.algorithm.handle publicKey privateKey⟩

/-- A key exports its selected parts. -/
theorem exported_eq_carrying (key : Key) (selection : Selection) :
    key.exported selection =
      .carrying (key.selectedParts selection).publicKey
        ((key.selectedParts selection).privateKey.map Secret.bytes) := by
  unfold exported selectedParts onlyIf
  cases selection.privateKey <;> rfl

section RoundTrip

variable {memory : Memory} {source target : Key} {selection : Selection}

/-- The selected parts of a sound key are valid for every algorithm with the same keys. -/
theorem Sound.selectedParts (sound : source.Sound)
    (same : source.algorithm.SameKeys target.algorithm) (selection : Selection) :
    (source.selectedParts selection).Sound target.algorithm where
  publicAccepted := by
    intro bytes found
    obtain ⟨-, held⟩ := eq_of_onlyIf found
    exact same.acceptsPublic (sound.parts.publicAccepted bytes held)
  privateAccepted := by
    intro secret found
    obtain ⟨-, held⟩ := eq_of_onlyIf found
    exact same.acceptsPrivate (sound.parts.privateAccepted secret held)
  handle := by rw [same.handle_eq, Key.selectedParts]

theorem taken_exported_public :
    Parts.taken selection.publicKey (source.exported selection) ParameterName.publicKey =
      .ok (source.selectedParts selection).publicKey := by
  rw [exported_eq_carrying, Parts.taken, ParameterSet.readOctets_carrying_public, selectedParts]
  cases selection.publicKey <;> rfl

theorem taken_exported_private :
    Parts.taken selection.privateKey (source.exported selection) ParameterName.privateKey =
      .ok ((source.selectedParts selection).privateKey.map Secret.bytes) := by
  rw [exported_eq_carrying, Parts.taken, ParameterSet.readOctets_carrying_private, selectedParts]
  cases selection.privateKey <;> rfl

/-- What a sound key exports is read as copies of its selected parts. -/
theorem read_exported (sound : source.Sound) (same : source.algorithm.SameKeys target.algorithm)
    (holds : source.HoldsSome selection) :
    Parts.read memory target.algorithm selection (source.exported selection) =
      Parts.copied memory (source.selectedParts selection) := by
  have supplied : Parts.Supplied selection (source.exported selection)
      (source.selectedParts selection) :=
    ⟨taken_exported_public, taken_exported_private, holds⟩
  rw [Parts.read_eq, Parts.checked_eq_ok_iff.2 ⟨supplied, sound.selectedParts same selection⟩]
  rfl

/-- An export without any part is not read by anyone. -/
theorem read_exported_of_not_holdsSome {a : Algorithm} (none : ¬ source.HoldsSome selection) :
    ∃ e, Parts.read memory a selection (source.exported selection) = .error e := by
  cases read : Parts.read memory a selection (source.exported selection) with
  | error e => exact ⟨e, rfl⟩
  | ok parts =>
      obtain ⟨supplied, -⟩ := Parts.read_eq_ok_iff.1 read
      have publicPart := Except.ok.inj (taken_exported_public.symm.trans supplied.publicPart)
      have privatePart := Except.ok.inj (taken_exported_private.symm.trans supplied.privatePart)
      refine absurd ?_ none
      rcases supplied.some with present | present
      · left
        rw [← publicPart] at present
        exact present
      · right
        have sameSize := congrArg Option.isSome privatePart
        rw [Option.isSome_map, Option.isSome_map, present] at sameSize
        exact sameSize

/-- What the importing key is like after the round trip. -/
structure Restored (source target : Key) (selection : Selection) (after : Key) : Prop where
  publicPart : after.publicKey = if selection.publicKey then source.publicKey else none
  privatePart : after.privateKey = if selection.privateKey then source.privateKey else none
  exportedAgain : after.exported selection = source.exported selection
  handle : selection.contains .keyPair → after.classical = source.classical
  agrees : selection.contains .keyPair → target.algorithm.name = source.algorithm.name →
    after.agrees source .privateHalf

theorem restored_withParts (sound : source.Sound)
    (same : source.algorithm.SameKeys target.algorithm) :
    Restored source target selection (target.withParts (source.selectedParts selection)) where
  publicPart := rfl
  privatePart := rfl
  exportedAgain := by
    unfold exported withParts selectedParts onlyIf
    cases selection.publicKey <;> cases selection.privateKey <;> rfl
  handle := by
    intro whole
    obtain ⟨publicSelected, privateSelected⟩ := Selection.contains_keyPair_iff.1 whole
    simp only [withParts, selectedParts, onlyIf, publicSelected, privateSelected, if_true,
      sound.classical_eq_handle]
  agrees := by
    intro whole sameName
    obtain ⟨-, privateSelected⟩ := Selection.contains_keyPair_iff.1 whole
    refine agrees_privateHalf_iff.2 ⟨⟨sameName, same.keyClass.symm⟩, ?_⟩
    simp only [withParts, selectedParts, onlyIf, privateSelected, if_true]

/-- Importing what a reachable key exports succeeds on every key with the same primitive and class, when
the key holds a selected part and there is memory for the copies, and restores what was selected.  When it
holds none, or the copies cannot be had, the import fails and changes nothing. -/
theorem importParts_exported (reachable : source.Reachable)
    (samePrimitive : source.algorithm.primitive = target.algorithm.primitive)
    (sameClass : source.algorithm.keyClass = target.algorithm.keyClass) :
    let outcome := (source.exportParts selection (importParts memory selection)).run target
    (source.HoldsSome selection → (source.selectedParts selection).Granted memory →
      outcome.result = .ok () ∧ Restored source target selection outcome.state) ∧
    (¬ source.HoldsSome selection ∨ ¬ (source.selectedParts selection).Granted memory →
      (∃ e, outcome.result = .error e) ∧ outcome.state = target) := by
  have sound := reachable.sound
  have same : source.algorithm.SameKeys target.algorithm := ⟨samePrimitive, sameClass⟩
  intro outcome
  simp only [outcome, exportParts, Action.run_emit_bind, run_importParts]
  constructor
  · intro found granted
    simp only [read_exported sound same found, Parts.copied_eq_ok_iff.2 ⟨granted, rfl⟩]
    exact ⟨trivial, restored_withParts sound same⟩
  · intro cannot
    have refused : ∃ e, Parts.read memory target.algorithm selection (source.exported selection) =
        .error e := by
      by_cases found : source.HoldsSome selection
      · rw [read_exported sound same found]
        cases made : Parts.copied memory (source.selectedParts selection) with
        | error e => exact ⟨e, rfl⟩
        | ok parts =>
            exact absurd (Parts.copied_eq_ok_iff.1 made).1 (cannot.resolve_left (not_not.2 found))
      · exact read_exported_of_not_holdsSome found
    obtain ⟨e, refused⟩ := refused
    simp only [refused]
    exact ⟨⟨e, rfl⟩, trivial⟩

end RoundTrip

/-- A set with an encoded public and an encoded private key is read, whether they belong together or
not. -/
theorem read_carrying {memory : Memory} {a : Algorithm} {publicKey privateKey : Bytes}
    (publicAccepted : a.AcceptsPublic publicKey) (privateAccepted : a.AcceptsPrivate privateKey)
    (publicRoom : memory.grants ParameterName.publicKey a.publicKeyLength = true)
    (privateRoom : memory.grants "secret buffer" a.privateKeyLength = true) :
    Parts.read memory a .keyPair (.carrying (some publicKey) (some privateKey)) =
      .ok ⟨some publicKey, some ⟨privateKey⟩, a.privateHandle privateKey⟩ := by
  have sound : Parts.Sound a ⟨some publicKey, some ⟨privateKey⟩, a.privateHandle privateKey⟩ := by
    refine ⟨?_, ?_, rfl⟩
    · rintro _ ⟨⟩
      exact publicAccepted
    · rintro _ ⟨⟩
      exact privateAccepted
  exact Parts.read_eq_ok_iff.2
    ⟨⟨rfl, rfl, .inl rfl⟩, sound, sound.granted publicRoom privateRoom⟩

/-! ### Hybrid keys from an import of both parts -/

section ImportedPair

variable (classical scalar : Bytes)

/-- An encoded public key with the given classical half. -/
def publicKeyOf : Bytes := Composite.layout classical (List.replicate 800 0)

/-- An encoded private key with the given classical half. -/
def privateKeyOf : Bytes := Composite.layout scalar (List.replicate 1632 0)

/-- An empty hybrid key after an import of both. -/
def importedPair : Key :=
  ((importParts .addressable .keyPair
    (.carrying (some (publicKeyOf classical)) (some (privateKeyOf scalar)))).run
      (withoutParts .x25519Mlkem512)).state

theorem reachable_importedPair : (importedPair classical scalar).Reachable :=
  reachable_x25519Mlkem512.step (.direct .addressable (.importParts _ _) rfl)

variable {classical scalar}

theorem importedPair_eq (classicalLength : classical.length = 32)
    (scalarLength : scalar.length = 32) :
    importedPair classical scalar = (withoutParts .x25519Mlkem512).withParts
      ⟨some (publicKeyOf classical), some ⟨privateKeyOf scalar⟩,
        Algorithm.x25519Mlkem512.privateHandle (privateKeyOf scalar)⟩ := by
  have read : Parts.read .addressable (withoutParts .x25519Mlkem512).algorithm .keyPair
      (.carrying (some (publicKeyOf classical)) (some (privateKeyOf scalar))) = .ok _ :=
    read_carrying
      (Algorithm.x25519Mlkem512_acceptsPublic classicalLength List.length_replicate)
      (Algorithm.x25519Mlkem512_acceptsPrivate scalarLength List.length_replicate) rfl rfl
  rw [importedPair, run_importParts, read]
  rfl

theorem length_publicKeyOf (classicalLength : classical.length = 32) :
    (publicKeyOf classical).length = 836 := by
  rw [publicKeyOf, Composite.length_layout, classicalLength, List.length_replicate]
  rfl

/-- The key takes any other public key of its algorithm. -/
theorem importedPair_acceptsPublic {other : Bytes} (classicalLength : classical.length = 32)
    (scalarLength : scalar.length = 32) (otherLength : other.length = 32) :
    (importedPair classical scalar).algorithm.AcceptsPublic (publicKeyOf other) := by
  rw [importedPair_eq classicalLength scalarLength]
  exact Algorithm.x25519Mlkem512_acceptsPublic otherLength List.length_replicate

end ImportedPair

/-- A hybrid key pair goes from a key to one that has the same primitive under another name. -/
theorem importParts_exported_other_name :
    let source := importedPair (List.replicate 32 9) (List.replicate 32 1)
    let target := withoutParts { Algorithm.x25519Mlkem512 with name := "kyber512" }
    let outcome := (source.exportParts .everything (importParts .addressable .everything)).run target
    outcome.result = .ok () ∧
      outcome.state.publicKey = some (publicKeyOf (List.replicate 32 9)) ∧
      outcome.state.privateKey = some ⟨privateKeyOf (List.replicate 32 1)⟩ ∧
      outcome.state.classical = source.classical := by
  intro source target outcome
  have left : source = (withoutParts .x25519Mlkem512).withParts _ :=
    importedPair_eq List.length_replicate List.length_replicate
  have reachable : source.Reachable :=
    reachable_importedPair (List.replicate 32 9) (List.replicate 32 1)
  have holds : source.HoldsSome .everything := by
    rw [left]
    exact .inl rfl
  have samePrimitive : source.algorithm.primitive = target.algorithm.primitive := by rw [left]; rfl
  have sameClass : source.algorithm.keyClass = target.algorithm.keyClass := by rw [left]; rfl
  have same : source.algorithm.SameKeys target.algorithm := ⟨samePrimitive, sameClass⟩
  have granted : (source.selectedParts .everything).Granted .addressable :=
    (reachable.sound.selectedParts same .everything).granted rfl rfl
  obtain ⟨succeeds, restored⟩ :=
    (importParts_exported reachable samePrimitive sameClass).1 holds granted
  refine ⟨succeeds, ?_, ?_, restored.handle rfl⟩
  · rw [restored.publicPart, left]
    rfl
  · rw [restored.privatePart, left]
    rfl

end Key

end HybridKeys
