/-
Module: HybridKeys.Proofs.ImportOutcome
Purpose: When an import succeeds, what it leaves, and how little of the set and of the key it depends on.
Main exports: Key.counted, Key.suppliedBytes, Key.Importable, Key.GrantsCopies, Key.Imports,
  exists_read_iff_importable, imports_of_read, read_congr, succeeds_importParts_iff,
  importParts_outcome
-/
import HybridKeys.Proofs.ExportImport
import HybridKeys.Proofs.FirstParameters

namespace HybridKeys

/-!
For each half of the key pair one parameter of the set counts, or none: the first of its name, and only
if the half is selected.  The import succeeds exactly when there is one at all, each one is an encoded
key, and there is memory for a copy of each.  What the key held before does not come into it, and neither
does any other parameter, however malformed.
-/

namespace Key

variable {memory : Memory} {a : Algorithm} {selection : Selection} {set : ParameterSet}
  {parts : Parts}

/-! ### The parameters that count -/

/-- The parameter that counts for a half of the key pair. -/
def counted (selected : Bool) (set : ParameterSet) (name : String) : Option Parameter :=
  onlyIf selected (set.find? name)

/-- The octet string of the parameter that counts. -/
def suppliedBytes (selected : Bool) (set : ParameterSet) (name : String) : Option Bytes :=
  (counted selected set name).bind fun p => p.value.octets?

/-- What is taken out of a set is the octet string of the parameter that counts. -/
theorem taken_eq_ok_iff {selected : Bool} {name : String} {part : Option Bytes} :
    Parts.taken selected set name = .ok part ↔
      (∀ p, counted selected set name = some p → ∃ bytes, p.value.octets? = some bytes) ∧
        part = suppliedBytes selected set name := by
  cases selected with
  | true => exact ParameterSet.readOctets_eq_ok_iff
  | false => simp [Parts.taken, counted, suppliedBytes, onlyIf, eq_comm]

/-- There is a string exactly where a parameter counts. -/
theorem isSome_of_taken {selected : Bool} {name : String} {part : Option Bytes}
    (taken : Parts.taken selected set name = .ok part) :
    part.isSome = (counted selected set name).isSome := by
  obtain ⟨octets, rfl⟩ := taken_eq_ok_iff.1 taken
  unfold suppliedBytes
  cases counts : counted selected set name with
  | none => rfl
  | some p =>
      obtain ⟨bytes, held⟩ := octets p counts
      rw [Option.bind_some, held]
      rfl

/-! ### Success -/

/-- The parameter, if there is one, is an octet string, and the string can be read. -/
def Readable (read : Bytes → Except Error (Option ClassicalKey)) (counts : Option Parameter) : Prop :=
  ∀ p, counts = some p → ∃ bytes classical, p.value.octets? = some bytes ∧ read bytes = .ok classical

/-- What an import succeeds on: the selection names a half of the key pair, a parameter counts for one,
and those that count can be read. -/
structure Importable (a : Algorithm) (selection : Selection) (set : ParameterSet) : Prop where
  named : selection.namesKeyPart = true
  present : (counted selection.publicKey set ParameterName.publicKey).isSome ∨
    (counted selection.privateKey set ParameterName.privateKey).isSome
  publicPart : Readable a.readPublic (counted selection.publicKey set ParameterName.publicKey)
  privatePart : Readable a.readPrivate (counted selection.privateKey set ParameterName.privateKey)

/-- A parameter that counts can be read if its string is taken out of the set and is valid. -/
theorem readable_counted_iff {read : Bytes → Except Error (Option ClassicalKey)}
    {accepts : Bytes → Prop} {image : Bytes → Option ClassicalKey}
    (spec : ∀ {bytes classical}, read bytes = .ok classical ↔
      accepts bytes ∧ classical = image bytes) {selected : Bool} {name : String} :
    Readable read (counted selected set name) ↔
      ∃ part, Parts.taken selected set name = .ok part ∧ ∀ bytes, part = some bytes → accepts bytes := by
  constructor
  · intro readable
    refine ⟨_, taken_eq_ok_iff.2 ⟨?_, rfl⟩, ?_⟩
    · intro p counts
      obtain ⟨bytes, _, octets, -⟩ := readable p counts
      exact ⟨bytes, octets⟩
    · intro bytes supplied
      obtain ⟨p, counts, octets⟩ := Option.bind_eq_some_iff.1 supplied
      obtain ⟨held, classical, same, read⟩ := readable p counts
      cases octets.symm.trans same
      exact (spec.1 read).1
  · intro conditions
    obtain ⟨part, taken, accepted⟩ := conditions
    obtain ⟨strings, rfl⟩ := taken_eq_ok_iff.1 taken
    intro p counts
    obtain ⟨bytes, octets⟩ := strings p counts
    have supplied : suppliedBytes selected set name = some bytes := by
      rw [suppliedBytes, counts, Option.bind_some, octets]
    exact ⟨bytes, image bytes, octets, spec.2 ⟨accepted bytes supplied, rfl⟩⟩

/-- There is memory for a copy of each string that counts. -/
structure GrantsCopies (memory : Memory) (selection : Selection) (set : ParameterSet) : Prop where
  publicPart : memory.grantsBytes ParameterName.publicKey
    (suppliedBytes selection.publicKey set ParameterName.publicKey) = true
  privatePart : memory.grantsBytes "secret buffer"
    (suppliedBytes selection.privateKey set ParameterName.privateKey) = true

/-- What is supplied for the parts is what counts, so it takes the same memory. -/
theorem granted_iff_grantsCopies (supplied : Parts.Supplied selection set parts) :
    parts.Granted memory ↔ GrantsCopies memory selection set := by
  obtain ⟨-, publicKey⟩ := taken_eq_ok_iff.1 supplied.publicPart
  obtain ⟨-, privateKey⟩ := taken_eq_ok_iff.1 supplied.privatePart
  constructor
  · intro granted
    exact ⟨publicKey ▸ granted.publicPart, privateKey ▸ granted.privatePart⟩
  · intro granted
    exact ⟨publicKey ▸ granted.publicPart, privateKey ▸ granted.privatePart⟩

/-- The parts of a set pass the checks exactly when it can be imported. -/
theorem exists_checked_iff_importable :
    (∃ parts, Parts.checked a selection set = .ok parts) ↔ Importable a selection set := by
  constructor
  · intro succeeds
    obtain ⟨parts, checked⟩ := succeeds
    obtain ⟨supplied, sound⟩ := Parts.checked_eq_ok_iff.1 checked
    have privateAccepted : ∀ bytes, parts.privateKey.map Secret.bytes = some bytes →
        a.AcceptsPrivate bytes := by
      intro bytes found
      obtain ⟨secret, held, rfl⟩ := Option.map_eq_some_iff.1 found
      exact sound.privateAccepted secret held
    have present : (counted selection.publicKey set ParameterName.publicKey).isSome ∨
        (counted selection.privateKey set ParameterName.privateKey).isSome := by
      rw [← isSome_of_taken supplied.publicPart, ← isSome_of_taken supplied.privatePart,
        Option.isSome_map]
      exact supplied.some
    refine ⟨?_, present, ?_, ?_⟩
    · rw [Selection.namesKeyPart_eq, Bool.or_eq_true]
      rcases supplied.some with publicThere | privateThere
      · exact .inr (Parts.selected_of_taken supplied.publicPart publicThere)
      · exact .inl (Parts.selected_of_taken supplied.privatePart (by rwa [Option.isSome_map]))
    · exact (readable_counted_iff Algorithm.readPublic_eq_ok_iff).2
        ⟨_, supplied.publicPart, sound.publicAccepted⟩
    · exact (readable_counted_iff Algorithm.readPrivate_eq_ok_iff).2
        ⟨_, supplied.privatePart, privateAccepted⟩
  · intro importable
    obtain ⟨publicKey, publicTaken, publicAccepted⟩ :=
      (readable_counted_iff Algorithm.readPublic_eq_ok_iff).1 importable.publicPart
    obtain ⟨privateKey, privateTaken, privateAccepted⟩ :=
      (readable_counted_iff Algorithm.readPrivate_eq_ok_iff).1 importable.privatePart
    refine ⟨⟨publicKey, privateKey.map Secret.mk, a.handle publicKey (privateKey.map Secret.mk)⟩,
      Parts.checked_eq_ok_iff.2 ⟨⟨publicTaken, ?_, ?_⟩, publicAccepted, ?_, rfl⟩⟩
    · simpa [Function.comp_def] using privateTaken
    · rw [Option.isSome_map, isSome_of_taken publicTaken, isSome_of_taken privateTaken]
      exact importable.present
    · intro secret held
      obtain ⟨bytes, found, rfl⟩ := Option.map_eq_some_iff.1 held
      exact privateAccepted bytes found

/-- The parts of a set can be read exactly when it can be imported and there is memory for them. -/
theorem exists_read_iff_importable :
    (∃ parts, Parts.read memory a selection set = .ok parts) ↔
      Importable a selection set ∧ GrantsCopies memory selection set := by
  rw [← exists_checked_iff_importable]
  constructor
  · intro succeeds
    obtain ⟨parts, read⟩ := succeeds
    obtain ⟨supplied, sound, granted⟩ := Parts.read_eq_ok_iff.1 read
    exact ⟨⟨parts, Parts.checked_eq_ok_iff.2 ⟨supplied, sound⟩⟩,
      (granted_iff_grantsCopies supplied).1 granted⟩
  · intro conditions
    obtain ⟨⟨parts, checked⟩, granted⟩ := conditions
    obtain ⟨supplied, sound⟩ := Parts.checked_eq_ok_iff.1 checked
    exact ⟨parts, Parts.read_eq_ok_iff.2
      ⟨supplied, sound, (granted_iff_grantsCopies supplied).2 granted⟩⟩

/-- What an import leaves: the octet strings that count, and the handle that was read from the private
one, or else from the public one. -/
structure Imports (a : Algorithm) (selection : Selection) (set : ParameterSet) (parts : Parts) :
    Prop where
  publicKey : parts.publicKey = suppliedBytes selection.publicKey set ParameterName.publicKey
  privateKey : parts.privateKey =
    (suppliedBytes selection.privateKey set ParameterName.privateKey).map Secret.mk
  fromPrivate : ∀ secret, parts.privateKey = some secret →
    a.readPrivate secret.bytes = .ok parts.classical
  fromPublic : parts.privateKey = none → ∀ bytes, parts.publicKey = some bytes →
    a.readPublic bytes = .ok parts.classical

theorem imports_of_read (read : Parts.read memory a selection set = .ok parts) :
    Imports a selection set parts := by
  obtain ⟨supplied, sound, -⟩ := Parts.read_eq_ok_iff.1 read
  obtain ⟨-, publicKey⟩ := taken_eq_ok_iff.1 supplied.publicPart
  obtain ⟨-, privateKey⟩ := taken_eq_ok_iff.1 supplied.privatePart
  refine ⟨publicKey, ?_, ?_, ?_⟩
  · rw [← privateKey, Option.map_map]
    exact Option.map_id'.symm
  · intro secret held
    refine Algorithm.readPrivate_eq_ok_iff.2 ⟨sound.privateAccepted secret held, ?_⟩
    rw [sound.handle, held]
    rfl
  · intro absent bytes held
    refine Algorithm.readPublic_eq_ok_iff.2 ⟨sound.publicAccepted bytes held, ?_⟩
    rw [sound.handle, absent, held]
    rfl

/-! ### What does not matter -/

/-- The names under which the selected halves of a key pair are looked up. -/
def partNames (selection : Selection) : List String :=
  (if selection.publicKey then [ParameterName.publicKey] else []) ++
    if selection.privateKey then [ParameterName.privateKey] else []

/-- An import looks at nothing but the first values of the selected names. -/
theorem read_congr {other : ParameterSet}
    (agree : ParameterSet.AgreeOn (partNames selection) set other) :
    Parts.read memory a selection set = Parts.read memory a selection other := by
  have taken : ∀ (selected : Bool) (name : String),
      (selected = true → name ∈ partNames selection) →
        Parts.taken selected set name = Parts.taken selected other name := by
    intro selected name listed
    cases selected with
    | false => rfl
    | true => exact agree.readOctets_eq (listed rfl)
  have publicPart := taken selection.publicKey ParameterName.publicKey
    fun selected => by simp [partNames, selected]
  have privatePart := taken selection.privateKey ParameterName.privateKey
    fun selected => by simp [partNames, selected]
  rw [Parts.read_eq, Parts.read_eq, Parts.checked, Parts.checked, publicPart, privatePart]

/-! ### The outcome -/

theorem run_importParts_of_read {key : Key}
    (read : Parts.read memory key.algorithm selection set = .ok parts) :
    (importParts memory selection set).run key =
      ⟨.ok (), key.withParts parts, [.keyImport key.algorithm.name selection]⟩ := by
  rw [run_importParts, read]

/-- An import ends as the reading of the parts ends. -/
theorem succeeds_importParts_iff (memory : Memory) (key : Key) (selection : Selection)
    (set : ParameterSet) :
    (∃ answer, ((importParts memory selection set).run key).result = .ok answer) ↔
      Importable key.algorithm selection set ∧ GrantsCopies memory selection set := by
  rw [← exists_read_iff_importable, run_importParts]
  cases Parts.read memory key.algorithm selection set <;> simp

/-- What is read does not depend on the memory that it is read with. -/
theorem read_unique {other : Memory} {made : Parts}
    (read : Parts.read memory a selection set = .ok parts)
    (readAgain : Parts.read other a selection set = .ok made) : made = parts := by
  obtain ⟨supplied, sound, -⟩ := Parts.read_eq_ok_iff.1 read
  obtain ⟨suppliedAgain, soundAgain, -⟩ := Parts.read_eq_ok_iff.1 readAgain
  have checked := Parts.checked_eq_ok_iff.2 ⟨supplied, sound⟩
  rw [Parts.checked_eq_ok_iff.2 ⟨suppliedAgain, soundAgain⟩] at checked
  exact Except.ok.inj checked

/-- An import succeeds exactly when the selection names a half of the key pair, a parameter counts for one,
those that count are encoded keys, and there is memory for a copy of each.  It leaves their octet strings
and the handle read from them, and of the key that there was nothing but what it is.  So every key of the
algorithm ends with the same parts, and a parameter that does not count may as well not be there. -/
theorem importParts_outcome (memory : Memory) (key : Key) (selection : Selection)
    (set : ParameterSet) :
    let outcome := (importParts memory selection set).run key
    ((∃ answer, outcome.result = .ok answer) ↔
        Importable key.algorithm selection set ∧ GrantsCopies memory selection set) ∧
      (Importable key.algorithm selection set → GrantsCopies memory selection set →
        Imports key.algorithm selection set outcome.state.parts ∧
          outcome.state = key.withParts outcome.state.parts ∧
          ∀ (held : Memory) (other : Key), other.algorithm = key.algorithm →
            GrantsCopies held selection set →
              ((importParts held selection set).run other).state.parts = outcome.state.parts) ∧
      ∀ before p after, set.parameters = before ++ p :: after →
        ParameterSet.PassedOver (partNames selection) before p →
          (importParts memory selection ⟨before ++ after⟩).run key = outcome := by
  refine ⟨succeeds_importParts_iff memory key selection set, ?_, ?_⟩
  · intro importable granted
    obtain ⟨parts, read⟩ := exists_read_iff_importable.2 ⟨importable, granted⟩
    rw [run_importParts_of_read read]
    refine ⟨imports_of_read read, rfl, ?_⟩
    intro held other same grantedAgain
    obtain ⟨made, readAgain⟩ := exists_read_iff_importable.2 ⟨importable, grantedAgain⟩
    have unique := read_unique read readAgain
    rw [← same] at readAgain
    rw [run_importParts_of_read readAgain, unique]
    rfl
  · intro before p after split passedOver
    have whole : set = ⟨before ++ p :: after⟩ := by rw [← split]
    have same : Parts.read memory key.algorithm selection set =
        Parts.read memory key.algorithm selection ⟨before ++ after⟩ := by
      refine read_congr (.of_find?_eq ?_)
      intro name asked
      rw [whole, ParameterSet.find?_insert_of_passedOver passedOver asked]
    rw [run_importParts, run_importParts, same]

/-- A hybrid key with both halves is given another public key.  A second public key that is a number, and a
text for the private one, do no harm, and the private half is gone afterwards.  Without memory for the copy
the import fails. -/
theorem importParts_publicHalf_into_importedPair :
    let key := importedPair (List.replicate 32 9) (List.replicate 32 1)
    let encoded := publicKeyOf (List.replicate 32 8)
    let publicKeys : List Parameter :=
      [⟨ParameterName.publicKey, .octets encoded, false⟩, ⟨ParameterName.publicKey, .int 1, false⟩]
    let set : ParameterSet := ⟨publicKeys ++ [⟨ParameterName.privateKey, .utf8 "", false⟩]⟩
    let outcome := (importParts .addressable .publicHalf set).run key
    key.privateKey = some ⟨privateKeyOf (List.replicate 32 1)⟩ ∧
      (∃ answer, outcome.result = .ok answer) ∧
      outcome.state.parts.publicKey = some encoded ∧ outcome.state.parts.privateKey = none ∧
      outcome.state.parts.classical = some ⟨.x25519, List.replicate 32 8, none⟩ ∧
      (importParts .addressable .publicHalf ⟨publicKeys⟩).run key = outcome ∧
      ((importParts (.exhaustedFor ParameterName.publicKey) .publicHalf set).run key).result ≠
        .ok () := by
  intro key encoded publicKeys set outcome
  have held : key = (withoutParts .x25519Mlkem512).withParts _ :=
    importedPair_eq List.length_replicate List.length_replicate
  have algorithm : key.algorithm = .x25519Mlkem512 := by
    rw [held]
    rfl
  have accepted : key.algorithm.AcceptsPublic encoded := by
    rw [algorithm]
    exact Algorithm.x25519Mlkem512_acceptsPublic List.length_replicate List.length_replicate
  have importable : Importable key.algorithm .publicHalf set := by
    refine ⟨rfl, .inl rfl, ?_, ?_⟩
    · rintro _ ⟨⟩
      exact ⟨encoded, _, rfl, Algorithm.readPublic_eq_ok_iff.2 ⟨accepted, rfl⟩⟩
    · rintro _ ⟨⟩
  have whole : encoded.length = 836 := accepted.length.trans (by rw [algorithm]; rfl)
  have granted : GrantsCopies .addressable .publicHalf set := by
    refine ⟨?_, rfl⟩
    change Memory.addressable.grants ParameterName.publicKey encoded.length = true
    rw [whole]
    rfl
  obtain ⟨succeeds, leaves, ignores⟩ := importParts_outcome .addressable key .publicHalf set
  obtain ⟨imports, -, -⟩ := leaves importable granted
  have publicKey : outcome.state.parts.publicKey = some encoded := imports.publicKey
  have privateKey : outcome.state.parts.privateKey = none := imports.privateKey
  obtain ⟨-, classical⟩ :=
    Algorithm.readPublic_eq_ok_iff.1 (imports.fromPublic privateKey encoded publicKey)
  have part : Composite.classicalPart 32 encoded = List.replicate 32 8 :=
    Composite.classicalPart_layout List.length_replicate _
  refine ⟨by rw [held]; rfl, succeeds.2 ⟨importable, granted⟩, publicKey, privateKey, ?_, ?_, ?_⟩
  · rw [algorithm] at classical
    rw [← part]
    exact classical
  · exact ignores publicKeys _ [] rfl fun listed => absurd listed (by decide)
  · intro succeeded
    obtain ⟨-, refused⟩ :=
      (importParts_outcome (.exhaustedFor ParameterName.publicKey) key .publicHalf set).1.1
        ⟨(), succeeded⟩
    have asked : (Memory.exhaustedFor ParameterName.publicKey).grants ParameterName.publicKey
        encoded.length = true := refused.publicPart
    rw [whole] at asked
    cases asked

end Key

end HybridKeys
