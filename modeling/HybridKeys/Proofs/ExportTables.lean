/-
Module: HybridKeys.Proofs.ExportTables
Purpose: What an export hands over, what its table lists, what a key says it has and what a getter answers
  come to the same.
Main exports: Key.recording, Key.emission, parameters_exported, names_exported_eq_iff,
  Key.ReadByImport, mem_importTable_iff, run_getParameters_request, ExportAgrees, exportAgrees
-/
import HybridKeys.Proofs.ParameterReaders

namespace HybridKeys

/-!
A selection is taken apart in four places: where a key is exported, where the tables are made, where a key
tells what it has, and where an import reads.  A getter has its own list of names.  All of them go by the
two names of the halves of a key pair, and by which of the halves the key holds.
-/

/-- A set with one name holds what is at its first position. -/
theorem ParameterSet.eq_of_names {set : ParameterSet} {name : String} {p : Parameter}
    (names : set.names = [name]) (found : set.parameters[0]? = some p) : set = ⟨[p]⟩ := by
  obtain ⟨parameters⟩ := set
  obtain ⟨first, rfl, -⟩ := List.map_eq_singleton_iff.1 names
  rw [← Option.some.inj found]

namespace Key

variable {σ α : Type} {key : Key} {selection : Selection} {name : String}

/-! ### What is handed over -/

/-- A receiver that takes down, beside what it does, the sets that it is handed. -/
def recording (receiver : ParameterSet → Action σ α) (set : ParameterSet) :
    Action (σ × List ParameterSet) α :=
  fun (state, received) =>
    let outcome := (receiver set).run state
    ⟨outcome.result, (outcome.state, received ++ [set]), outcome.events⟩

/-- The entries of a table.  An absent table has none. -/
def entriesOf (table : Option (List Parameter.Descriptor)) : List Parameter.Descriptor :=
  table.getD []

/-- What is handed over for an entry of a table: the part of its name, if the key holds it. -/
def emission (key : Key) (entry : Parameter.Descriptor) : Option Parameter :=
  (key.part? entry.name).map fun bytes => { name := entry.name, value := .octets bytes }

/-- An export makes one call to its receiver, and answers what it answers. -/
theorem run_exportParts (key : Key) (selection : Selection) (receiver : ParameterSet → Action σ α)
    (state : σ) :
    let received := (receiver (key.exported selection)).run state
    (key.exportParts selection receiver).run state =
      ⟨received.result, received.state,
        .keyExport key.algorithm.name selection :: received.events⟩ :=
  Action.run_emit_bind _ _ state

/-- A table lists the names of the selected halves. -/
theorem names_entriesOf_importTable (selection : Selection) :
    (entriesOf (importTable selection)).map Parameter.Descriptor.name = partNames selection := by
  rcases selection with ⟨_ | _, _ | _, _, _⟩ <;> rfl

theorem name_mem_partNames {entry : Parameter.Descriptor}
    (member : entry ∈ entriesOf (exportTable selection)) : entry.name ∈ partNames selection := by
  rw [← names_entriesOf_importTable]
  exact List.mem_map_of_mem member

/-- The parameters of an export are those of the entries of its table, in order. -/
theorem parameters_exported (key : Key) (selection : Selection) :
    (key.exported selection).parameters = (entriesOf (exportTable selection)).filterMap key.emission := by
  obtain ⟨_, _, _, publicKey, privateKey, _, _, _⟩ := key
  rcases selection with ⟨_ | _, _ | _, _, _⟩ <;> cases publicKey <;> cases privateKey <;> rfl

/-- The names that are handed over are those whose part the key holds. -/
theorem names_exported (key : Key) (selection : Selection) :
    (key.exported selection).names =
      (partNames selection).filter fun name => (key.part? name).isSome := by
  rw [ParameterSet.names, parameters_exported, ← names_entriesOf_importTable, exportTable]
  induction entriesOf (importTable selection) with
  | nil => rfl
  | cons entry rest inductionHypothesis =>
      cases held : key.part? entry.name with
      | none => simpa [emission, held] using inductionHypothesis
      | some bytes => simpa [emission, held] using inductionHypothesis

theorem holds_iff : key.holds selection = true ↔
    ∀ name ∈ partNames selection, (key.part? name).isSome := by
  rcases selection with ⟨_ | _, _ | _, _, _⟩ <;> simp [holds, partNames]

/-- An export has all that its table lists exactly when the key has all that is selected. -/
theorem names_exported_eq_iff : (key.exported selection).names = partNames selection ↔
    key.holds selection = true := by
  rw [names_exported, List.filter_eq_self, holds_iff]

/-! ### What an import reads -/

/-- The first parameter of the name can make a difference to an import: on some key and in some memory it
ends otherwise when nothing but that parameter changes. -/
def ReadByImport (selection : Selection) (name : String) : Prop :=
  ∃ (memory : Memory) (key : Key) (set other : ParameterSet), key.Reachable ∧
    (∀ asked, asked ≠ name → set.find? asked = other.find? asked) ∧
      (importParts memory selection set).run key ≠ (importParts memory selection other).run key

/-- An empty slot of a name that is read is refused as it is: it is no octet string. -/
theorem read_request (memory : Memory) (a : Algorithm) (listed : name ∈ partNames selection) :
    Parts.read memory a selection (.request [name]) =
      .error (.invalidInput name "expected an octet string") := by
  rcases mem_partNames_iff.1 listed with ⟨rfl, selected⟩ | ⟨rfl, selected⟩ <;>
    rcases selection with ⟨_ | _, _ | _, _, _⟩ <;> cases selected <;> rfl

/-- Where a name is read at all, an empty set is refused as a whole. -/
theorem read_empty (memory : Memory) (a : Algorithm) (listed : name ∈ partNames selection) :
    Parts.read memory a selection .empty =
      .error (.invalidInput "import" "no pub or priv parameter supplied") := by
  rcases mem_partNames_iff.1 listed with ⟨-, selected⟩ | ⟨-, selected⟩ <;>
    rcases selection with ⟨_ | _, _ | _, _, _⟩ <;> cases selected <;> rfl

/-- The names that an import reads are those that its table lists. -/
theorem mem_importTable_iff : name ∈ (entriesOf (importTable selection)).map Parameter.Descriptor.name ↔
    ReadByImport selection name := by
  rw [names_entriesOf_importTable]
  constructor
  · intro listed
    refine ⟨.addressable, withoutParts .x25519Mlkem512, .request [name], .empty,
      reachable_x25519Mlkem512, ?_, ?_⟩
    · intro asked other
      simp [ParameterSet.find?, ParameterSet.request, ParameterSet.empty, Parameter.request,
        Ne.symm other]
    · have notImport : name ≠ "import" := by
        rcases mem_partNames_iff.1 listed with ⟨rfl, -⟩ | ⟨rfl, -⟩ <;> decide
      rw [run_importParts, run_importParts, read_request _ _ listed, read_empty _ _ listed]
      simp [notImport]
  · rintro ⟨memory, key, set, other, -, sameElsewhere, differ⟩
    by_contra notListed
    have agree : ParameterSet.AgreeOn (partNames selection) set other := by
      refine .of_find?_eq fun asked listed => sameElsewhere asked ?_
      rintro rfl
      exact notListed listed
    exact differ (by rw [importParts_congr memory agree])

/-! ### What a getter answers -/

/-- In a request for one part that part can be missing, and nothing else. -/
theorem missing_request (listed : name ∈ partNames selection) :
    key.missing (.request [name]) = if key.part? name = none then [name] else [] := by
  have asks : ∀ asked, ParameterSet.Asks (.request [name]) asked ↔ asked = name := by
    intro asked
    rw [ParameterSet.asks_iff_mem_names]
    exact List.mem_singleton
  rcases mem_partNames_iff.1 listed with ⟨rfl, -⟩ | ⟨rfl, -⟩
  · by_cases absent : key.publicKey = none <;>
      simp +decide [missing, asks, absent]
  · by_cases absent : key.privateKey = none <;>
      simp +decide [missing, asks, absent]

/-- One slot that asks for a part that the key holds is filled with it. -/
theorem run_getParameters_request {bytes : Bytes} (listed : name ∈ partNames selection)
    (held : key.part? name = some bytes) :
    key.getParameters.run (.request [name]) =
      ⟨.ok (), ⟨[⟨name, .octets bytes, true⟩]⟩, [.getParameters key.algorithm.name]⟩ := by
  have done : (key.getParameters.run (.request [name])).result = .ok () := by
    rw [result_getParameters, missing_request listed, held]
    rfl
  have available := available_of_answered done
  have answered := answered_writeAll (pairwise_answers key) available
  have first : ParameterSet.FirstAt (.request [name]) 0 name := ParameterSet.firstAt_zero_iff.2 rfl
  obtain ⟨value, known, slot⟩ := answered.first _ (part_mem_answers listed) 0 _ first rfl
  rw [held] at known
  cases known
  rw [run_getParameters_of_available available, ParameterSet.eq_of_names answered.names slot]

/-- One slot that asks for a part is answered exactly when the part is exported. -/
theorem result_getParameters_request (listed : name ∈ partNames selection) :
    (key.getParameters.run (.request [name])).result = .ok () ↔
      name ∈ (key.exported selection).names := by
  rw [names_exported, List.mem_filter, result_getParameters, missing_request listed]
  cases held : key.part? name with
  | none => simp
  | some bytes => simp [listed]

/-! ### Agreement -/

/-- What an export of a key has to do with the tables, with what the key says that it has, and with what
its getter answers. -/
structure ExportAgrees (key : Key) (selection : Selection) : Prop where
  /-- The receiver is handed one set, once, and it decides how the export ends. -/
  calledOnce : ∀ {σ α : Type} (receiver : ParameterSet → Action σ α) (state : σ),
    let received := (receiver (key.exported selection)).run state
    ((key.exportParts selection receiver).run state).result = received.result ∧
      ((key.exportParts selection receiver).run state).state = received.state ∧
      ((key.exportParts selection (recording receiver)).run (state, [])).state =
        (received.state, [key.exported selection])
  /-- The set has the parts that the table lists and the key holds, in the order of the table. -/
  handedOver : (key.exported selection).parameters =
    (entriesOf (exportTable selection)).filterMap key.emission
  /-- Nothing of the table is left out exactly when the key has all that is selected. -/
  complete : (key.exported selection).names =
      (entriesOf (exportTable selection)).map Parameter.Descriptor.name ↔
    ((key.has selection : Action Unit Bool).run ()).result = .ok true
  /-- The table of an import lists what an import reads. -/
  reads : ∀ name, name ∈ (entriesOf (importTable selection)).map Parameter.Descriptor.name ↔
    ReadByImport selection name
  /-- A getter that is asked for one part of the table succeeds exactly when the part is handed over. -/
  answers : ∀ entry ∈ entriesOf (exportTable selection),
    (key.getParameters.run (.request [entry.name])).result = .ok () ↔
      entry.name ∈ (key.exported selection).names
  /-- Then it fills the slot with what is handed over. -/
  fills : ∀ p ∈ (key.exported selection).parameters,
    (key.getParameters.run (.request [p.name])).state = ⟨[{ p with modified := true }]⟩

/-- Whatever a key holds and whatever is selected, an export, the two tables, the key's own word and its
getter agree. -/
theorem exportAgrees (key : Key) (selection : Selection) : key.ExportAgrees selection where
  calledOnce := by
    intro σ α receiver state received
    rw [run_exportParts, run_exportParts]
    exact ⟨rfl, rfl, rfl⟩
  handedOver := parameters_exported key selection
  complete := by
    rw [exportTable, names_entriesOf_importTable, names_exported_eq_iff, has, Action.run_emit_bind,
      Action.run_pure]
    simp
  reads := fun _ => mem_importTable_iff
  answers := by
    intro entry member
    exact result_getParameters_request (name_mem_partNames member)
  fills := by
    intro p member
    rw [parameters_exported] at member
    obtain ⟨entry, inTable, emitted⟩ := List.mem_filterMap.1 member
    obtain ⟨bytes, held, rfl⟩ := Option.map_eq_some_iff.1 emitted
    rw [run_getParameters_request (name_mem_partNames inTable) held]

/-- Of a key with a public part only, an export of everything has that part, and the key owns up to not
having all. -/
example (bytes : Bytes) :
    let key := { withoutParts .x25519Mlkem512 with publicKey := some bytes }
    key.holds .everything = false ∧
      (key.exported .everything).parameters = [⟨ParameterName.publicKey, .octets bytes, false⟩] :=
  ⟨rfl, rfl⟩

end Key

end HybridKeys
