/-
Module: HybridKeys.Proofs.ParameterReaders
Purpose: The operations that read a parameter set see the first values of the names that they know, and
  nothing else of it.
Main exports: Reader, Reader.names, Reader.action, Reader.adapted, Reader.TreatsAlike,
  Reader.treatsAlike_of_agreeOn, Key.agreeOn_filled_exported, readers_see_first_values
-/
import HybridKeys.Proofs.AnsweredRequests
import HybridKeys.Proofs.ImportOutcome

namespace HybridKeys

/-!
Three operations read parameter sets: the import of key parts, and the settings of a key and of a
generation.  Each looks a few names up, and of what it finds it uses the value.  So two sets with the same
first values of these names are the same to it, whatever else is in them: the operation asks for the same
copies, and where it finds the same memory it ends alike, with the same answer or the same error, and
leaves the same state.
-/

theorem Key.importParts_congr (memory : Memory) {selection : Selection} {set other : ParameterSet}
    (agree : ParameterSet.AgreeOn (Key.partNames selection) set other) :
    Key.importParts memory selection set = Key.importParts memory selection other := by
  have read : ∀ a, Key.Parts.read memory a selection set = Key.Parts.read memory a selection other :=
    fun a => Key.read_congr agree
  simp only [Key.importParts, read]

theorem Key.setParameters_congr (memory : Memory) {set other : ParameterSet}
    (agree : ParameterSet.AgreeOn [ParameterName.encodedPublicKey, ParameterName.properties] set other) :
    Key.setParameters memory set = Key.setParameters memory other := by
  have encoded : set.readOctets ParameterName.encodedPublicKey = _ :=
    agree.readOctets_eq List.mem_cons_self
  have properties : set.readText ParameterName.properties = _ :=
    agree.readText_eq (List.mem_cons_of_mem _ List.mem_cons_self)
  simp only [Key.setParameters_eq, encoded, properties]

theorem Generation.setParameters_congr (memory : Memory) {set other : ParameterSet}
    (agree : ParameterSet.AgreeOn [ParameterName.group, ParameterName.properties] set other) :
    Generation.setParameters memory set = Generation.setParameters memory other := by
  have group : set.readText ParameterName.group = _ := agree.readText_eq List.mem_cons_self
  have properties : set.readText ParameterName.properties = _ :=
    agree.readText_eq (List.mem_cons_of_mem _ List.mem_cons_self)
  simp only [Generation.setParameters, Generation.readSettings, group, properties]

/-- An operation that reads a parameter set. -/
inductive Reader where
  | importParts (selection : Selection)
  | keySettings
  | generationSettings

namespace Reader

/-- What the operation changes. -/
def State : Reader → Type
  | importParts _ => Key
  | keySettings => Key
  | generationSettings => Generation

/-- The names that the operation looks up. -/
def names : Reader → List String
  | importParts selection => Key.partNames selection
  | keySettings => [ParameterName.encodedPublicKey, ParameterName.properties]
  | generationSettings => [ParameterName.group, ParameterName.properties]

def action (memory : Memory) : (reader : Reader) → ParameterSet → Action reader.State Unit
  | importParts selection => Key.importParts memory selection
  | keySettings => Key.setParameters memory
  | generationSettings => Generation.setParameters memory

/-- The operation on what is behind a handle. -/
def adapted (adapter : Adapter) (memory : Memory) :
    (reader : Reader) → ParameterSet → Action (Option reader.State) Unit
  | importParts selection => adapter.importParts memory selection
  | keySettings => adapter.setParameters memory
  | generationSettings => adapter.setGenerationParameters memory

/-- The operation ends alike with both sets, by itself and behind any handle, in whatever memory: with the
same answer or the same error, in the same state, and with the same events. -/
structure TreatsAlike (reader : Reader) (set other : ParameterSet) : Prop where
  direct : ∀ memory state,
    (reader.action memory set).run state = (reader.action memory other).run state
  adapted : ∀ adapter memory handle,
    (reader.adapted adapter memory set).run handle = (reader.adapted adapter memory other).run handle

variable {reader : Reader} {set other : ParameterSet}

theorem TreatsAlike.of_action_eq
    (same : ∀ memory, reader.action memory set = reader.action memory other) :
    reader.TreatsAlike set other where
  direct := by
    intro memory state
    rw [same memory]
  adapted := by
    intro adapter memory handle
    cases reader <;> exact congrFun (congrArg (Action.onHandle _) (same memory)) handle

/-- Sets with the same first values of the names that an operation looks up are the same to it. -/
theorem treatsAlike_of_agreeOn (agree : ParameterSet.AgreeOn reader.names set other) :
    reader.TreatsAlike set other := by
  apply TreatsAlike.of_action_eq
  intro memory
  cases reader with
  | importParts selection => exact Key.importParts_congr memory agree
  | keySettings => exact Key.setParameters_congr memory agree
  | generationSettings => exact Generation.setParameters_congr memory agree

end Reader

/-! ### Filled requests and exports -/

namespace ParameterSet

variable {set other : ParameterSet} {names : List String} {name : String} {value : Parameter.Value}

theorem Rearranged.agreeOn (same : set.Rearranged other) : AgreeOn names set other :=
  .of_find?_eq fun name _ => same.find?_eq name

/-- A slot that shows a value has it for a reader. -/
theorem Shows.firstValue?_eq (shown : set.Shows name value) (asked : set.Asks name) :
    set.firstValue? name = some value := by
  obtain ⟨slot, found⟩ := Option.isSome_iff_exists.1 asked
  rw [firstValue?, found, Option.map_some, (shown slot found).1]

theorem firstValue?_carrying_public (publicKey privateKey : Option Bytes) :
    (carrying publicKey privateKey).firstValue? ParameterName.publicKey = publicKey.map .octets := by
  cases publicKey <;> cases privateKey <;> rfl

theorem firstValue?_carrying_private (publicKey privateKey : Option Bytes) :
    (carrying publicKey privateKey).firstValue? ParameterName.privateKey = privateKey.map .octets := by
  cases publicKey <;> cases privateKey <;> rfl

theorem firstValue?_of_not_asks (absent : ¬ set.Asks name) : set.firstValue? name = none := by
  rw [firstValue?, Option.not_isSome_iff_eq_none.1 absent, Option.map_none]

end ParameterSet

namespace Key

variable {key : Key} {set : ParameterSet} {selection : Selection} {name : String}

theorem mem_partNames_iff : name ∈ partNames selection ↔
    name = ParameterName.publicKey ∧ selection.publicKey = true ∨
      name = ParameterName.privateKey ∧ selection.privateKey = true := by
  rcases selection with ⟨_ | _, _ | _, _, _⟩ <;> simp [partNames]

/-- A getter has the part of a name to answer with. -/
theorem part_mem_answers (listed : name ∈ partNames selection) :
    ⟨name, (key.part? name).map .octets⟩ ∈ key.answers := by
  obtain ⟨counts, -, answered⟩ := answers_eq_append key
  rw [answered]
  apply List.mem_append_right
  apply List.mem_map_of_mem
  rcases mem_partNames_iff.1 listed with ⟨rfl, -⟩ | ⟨rfl, -⟩ <;> decide

/-- An export has the selected parts that are there, under their names. -/
theorem firstValue?_exported (listed : name ∈ partNames selection) :
    (key.exported selection).firstValue? name = (key.part? name).map .octets := by
  rw [exported_eq_carrying]
  rcases mem_partNames_iff.1 listed with ⟨rfl, selected⟩ | ⟨rfl, selected⟩
  · simp only [ParameterSet.firstValue?_carrying_public, selectedParts, onlyIf, selected, if_true,
      part?_publicKey]
  · simp only [ParameterSet.firstValue?_carrying_private, selectedParts, onlyIf, selected, if_true,
      part?_privateKey]

/-- A request that was answered has the parts that it asked for, under their names. -/
theorem firstValue?_getParameters (done : (key.getParameters.run set).result = .ok ())
    (listed : name ∈ partNames selection) (asked : set.Asks name) :
    (key.getParameters.run set).state.firstValue? name = (key.part? name).map .octets := by
  have available := available_of_answered done
  obtain ⟨value, known⟩ : ∃ value, (key.part? name).map Parameter.Value.octets = some value :=
    Option.isSome_iff_exists.1 (available _ (part_mem_answers listed) asked)
  have shown : (writeAll key.answers set).Shows name value :=
    showsAll_writeAll (pairwise_answers key) _ (part_mem_answers listed) value known
  rw [run_getParameters_of_available available, known,
    shown.firstValue?_eq (asks_writeAll_iff.2 asked)]

/-- A request that was answered reads like an export, if it asked for every part that is exported. -/
theorem agreeOn_filled_exported (done : (key.getParameters.run set).result = .ok ())
    (asksExported : ∀ name ∈ (key.exported selection).names, set.Asks name) :
    ParameterSet.AgreeOn (partNames selection) (key.getParameters.run set).state
      (key.exported selection) := by
  intro name listed
  by_cases asked : set.Asks name
  · rw [firstValue?_getParameters done listed asked, firstValue?_exported listed]
  · have notExported : ¬ (key.exported selection).Asks name := by
      intro exported
      exact asked (asksExported name (ParameterSet.asks_iff_mem_names.1 exported))
    have notFilled : ¬ (key.getParameters.run set).state.Asks name := by
      rw [run_getParameters_of_available (available_of_answered done), asks_writeAll_iff]
      exact asked
    rw [ParameterSet.firstValue?_of_not_asks notFilled,
      ParameterSet.firstValue?_of_not_asks notExported]

end Key

/-- What an operation that reads a parameter set does with it depends on the first values of the names
that it looks up.  So slots of different names may stand in any order; a later parameter of a name and one
of a name that is not looked up may as well not be there; and a request that a getter has answered imports
like an export, if it asked for every part that is exported. -/
theorem readers_see_first_values (reader : Reader) (set : ParameterSet) :
    (∀ other, ParameterSet.AgreeOn reader.names set other → reader.TreatsAlike set other) ∧
      (∀ other, set.Rearranged other → reader.TreatsAlike set other) ∧
      (∀ before p after, set.parameters = before ++ p :: after →
        ParameterSet.PassedOver reader.names before p →
          reader.TreatsAlike set ⟨before ++ after⟩) ∧
      ∀ (key : Key) (selection : Selection), (key.getParameters.run set).result = .ok () →
        (∀ name ∈ (key.exported selection).names, set.Asks name) →
          (Reader.importParts selection).TreatsAlike (key.getParameters.run set).state
            (key.exported selection) := by
  refine ⟨?_, ?_, ?_, ?_⟩
  · intro other agree
    exact Reader.treatsAlike_of_agreeOn agree
  · intro other same
    exact Reader.treatsAlike_of_agreeOn same.agreeOn
  · intro before p after split passedOver
    have whole : set = ⟨before ++ p :: after⟩ := by rw [← split]
    refine Reader.treatsAlike_of_agreeOn (.of_find?_eq ?_)
    intro name asked
    rw [whole, ParameterSet.find?_insert_of_passedOver passedOver asked]
  · intro key selection done asksExported
    exact Reader.treatsAlike_of_agreeOn (Key.agreeOn_filled_exported done asksExported)

/-- A generation is given the same property query with and without a mark, among parameters that it passes
over.  A key that is given the parts of a hybrid key pair out of a request that was answered, from slots in
another order and with more of them, is the same as after an import of the exported parts. -/
theorem readers_of_marked_and_filled_sets :
    let marked : ParameterSet :=
      ⟨[⟨"seed", .int 1, false⟩, ⟨ParameterName.properties, .utf8 "fips=yes", true⟩,
        ⟨ParameterName.properties, .int 3, false⟩]⟩
    let plain : ParameterSet := ⟨[⟨ParameterName.properties, .utf8 "fips=yes", false⟩]⟩
    let source := Key.importedPair (List.replicate 32 9) (List.replicate 32 1)
    let request : ParameterSet :=
      .request [ParameterName.privateKey, "seed", ParameterName.publicKey, ParameterName.privateKey]
    let filled := (source.getParameters.run request).state
    Reader.generationSettings.TreatsAlike marked plain ∧
      (source.getParameters.run request).result = .ok () ∧
      (Reader.importParts .keyPair).TreatsAlike filled (source.exported .keyPair) := by
  intro marked plain source request filled
  have held : source = (Key.withoutParts .x25519Mlkem512).withParts _ :=
    Key.importedPair_eq List.length_replicate List.length_replicate
  have done : (source.getParameters.run request).result = .ok () := by rw [held]; rfl
  have names : (source.exported .keyPair).names = [ParameterName.publicKey, ParameterName.privateKey] := by
    rw [held]
    rfl
  obtain ⟨agreeing, -⟩ := readers_see_first_values .generationSettings marked
  obtain ⟨-, -, -, exported⟩ := readers_see_first_values (.importParts .keyPair) request
  refine ⟨agreeing plain ?_, done, exported source .keyPair done ?_⟩
  · unfold ParameterSet.AgreeOn
    decide
  · rw [names]
    decide

end HybridKeys
