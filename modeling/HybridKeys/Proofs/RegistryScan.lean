/-
Module: HybridKeys.Proofs.RegistryScan
Purpose: A look-up answers what a scan of the entries would, whatever name and class it is given.
Main exports: KeyClass.Takes, Registry.searchInside, searchBetween_eq_searchInside,
  pairwise_bytes_table, search?_eq_find?, Registry.Registered, Registry.Resolves,
  resolve_eq_ok_iff_resolves, resolve_eq_error_iff, resolve_by_scan, resolve_known_and_unknown_names
-/
import HybridKeys.Proofs.NameOrder
import HybridKeys.Proofs.RegistrySearch

namespace HybridKeys

/-!
The table is sorted by the bytes of its names, and a search halves it by comparing bytes, without ever
reading a place that the table does not have.  Whatever the name, that finds the one entry which going
through the unsorted entries would find.  The class is only looked at afterwards, so a name of the other
family is as unknown as one that nobody registered.
-/

/-- The family from which a class takes its primitives, and the curve that it adds to them. -/
inductive KeyClass.Takes : KeyClass → Family → Option Curve → Prop where
  | signature : Takes .signature .signature none
  | kem : Takes .kem .kem none
  | ecpHybridKem : Takes .ecpHybridKem .kem (some .p256)
  | ecxHybridKem : Takes .ecxHybridKem .kem (some .x25519)

theorem KeyClass.takes_iff {keyClass : KeyClass} {family : Family} {curve : Option Curve} :
    keyClass.Takes family curve ↔ family = keyClass.family ∧ curve = keyClass.curve := by
  constructor
  · intro takes
    cases takes with
    | signature => exact ⟨rfl, rfl⟩
    | kem => exact ⟨rfl, rfl⟩
    | ecpHybridKem => exact ⟨rfl, rfl⟩
    | ecxHybridKem => exact ⟨rfl, rfl⟩
  · rintro ⟨rfl, rfl⟩
    cases keyClass with
    | signature => exact .signature
    | kem => exact .kem
    | ecpHybridKem => exact .ecpHybridKem
    | ecxHybridKem => exact .ecxHybridKem

namespace Registry

/-! ### The search, byte by byte and place by place -/

/-- The search with every place that it reads known to be one of the table, and with names compared by
their bytes. -/
def searchInside (sorted : Array Entry) (name : String) (low high : ℕ)
    (inside : high ≤ sorted.size) : Option Entry :=
  if nonempty : low < high then
    let middle := low + (high - low) / 2
    have within : middle < sorted.size := by omega
    if sorted[middle].name = name then some sorted[middle]
    else if Bytes.ofText sorted[middle].name < Bytes.ofText name then
      searchInside sorted name (middle + 1) high inside
    else searchInside sorted name low middle (by omega)
  else none
termination_by high - low

/-- One step of a search that reads inside the table. -/
theorem searchBetween_of_within {sorted : Array Entry} {name : String} {low high : ℕ}
    (nonempty : low < high) (within : low + (high - low) / 2 < sorted.size) :
    searchBetween sorted name low high =
      if sorted[low + (high - low) / 2].name = name then some sorted[low + (high - low) / 2]
      else if sorted[low + (high - low) / 2].name < name then
        searchBetween sorted name (low + (high - low) / 2 + 1) high
      else searchBetween sorted name low (low + (high - low) / 2) := by
  rw [searchBetween, if_pos nonempty]
  dsimp only
  rw [Array.getElem?_eq_getElem within]

/-- A search between places of the table never reads outside of it, and the order of names is that of
their bytes. -/
theorem searchBetween_eq_searchInside {sorted : Array Entry} {name : String} {low high : ℕ}
    (inside : high ≤ sorted.size) :
    searchBetween sorted name low high = searchInside sorted name low high inside := by
  fun_induction searchInside sorted name low high inside with
  | case1 low high inside nonempty middle within same =>
      rw [searchBetween_of_within nonempty within, if_pos same]
  | case2 low high inside nonempty middle within other less inductionHypothesis =>
      rw [searchBetween_of_within nonempty within, if_neg other,
        if_pos (Bytes.ofText_lt_iff.1 less)]
      exact inductionHypothesis
  | case3 low high inside nonempty middle within other notLess inductionHypothesis =>
      rw [searchBetween_of_within nonempty within, if_neg other,
        if_neg (mt Bytes.ofText_lt_iff.2 notLess)]
      exact inductionHypothesis
  | case4 low high inside closed => rw [searchBetween, if_neg closed]

/-- The names of the table grow from place to place, in the order of their bytes. -/
theorem pairwise_bytes_table :
    table.toList.Pairwise fun first second =>
      Bytes.ofText first.name < Bytes.ofText second.name := by
  apply List.pairwise_iff_getElem.2
  intro i j before inside earlier
  exact Bytes.ofText_lt_iff.2 (ordered_table i j before inside earlier)

theorem perm_table : table.toList.Perm entries :=
  List.mergeSort_perm entries _

/-! ### The scan -/

/-- The search finds what going through the entries as they are listed would find. -/
theorem search?_eq_find? (name : String) :
    search? name = entries.find? fun entry => entry.name = name := by
  cases scanned : entries.find? fun entry => entry.name = name with
  | none =>
      cases found : search? name with
      | none => rfl
      | some entry =>
          obtain ⟨registered, named⟩ := search?_eq_some_iff.1 found
          exact absurd (decide_eq_true named) (List.find?_eq_none.1 scanned entry registered)
  | some entry =>
      have named : entry.name = name := by simpa using List.find?_some scanned
      exact search?_eq_some_iff.2 ⟨List.mem_of_find?_eq_some scanned, named⟩

/-! ### Names and classes -/

/-- The name has an entry of the family that the class asks for. -/
def Registered (name : String) (keyClass : KeyClass) : Prop :=
  ∃ entry ∈ entries, entry.name = name ∧
    ∃ curve, keyClass.Takes entry.primitive.family curve

/-- The algorithm is the entry of the name, for the class and with the curve of the class. -/
structure Resolves (name : String) (keyClass : KeyClass) (a : Algorithm) : Prop where
  entry : ⟨name, a.primitive⟩ ∈ entries
  named : a.name = name
  classed : a.keyClass = keyClass
  takes : keyClass.Takes a.primitive.family a.curve

variable {name : String} {keyClass : KeyClass} {a : Algorithm} {e : Error}

theorem resolve_eq_ok_iff_resolves :
    resolve name keyClass = .ok a ↔ Resolves name keyClass a := by
  rw [resolve_eq_ok_iff]
  constructor
  · rintro ⟨entry, family, named, rfl⟩
    exact ⟨entry, named, rfl, KeyClass.takes_iff.2 ⟨family, rfl⟩⟩
  · intro resolves
    exact ⟨resolves.entry, (KeyClass.takes_iff.1 resolves.takes).1, resolves.named,
      resolves.classed⟩

theorem exists_resolve_iff_registered :
    (∃ a, resolve name keyClass = .ok a) ↔ Registered name keyClass := by
  constructor
  · rintro ⟨a, resolved⟩
    have resolves := resolve_eq_ok_iff_resolves.1 resolved
    exact ⟨⟨name, a.primitive⟩, resolves.entry, rfl, a.curve, resolves.takes⟩
  · rintro ⟨entry, listed, rfl, curve, takes⟩
    refine ⟨⟨entry.name, keyClass, entry.primitive⟩, ?_⟩
    exact resolve_eq_ok_iff.2 ⟨listed, (KeyClass.takes_iff.1 takes).1, rfl, rfl⟩

/-- There is one way only to be refused. -/
theorem eq_unknownAlgorithm_of_resolve (refused : resolve name keyClass = .error e) :
    e = .unknownAlgorithm name := by
  rw [resolve] at refused
  split at refused
  · exact (Except.error.inj refused).symm
  · split at refused
    · cases refused
    · exact (Except.error.inj refused).symm

theorem resolve_eq_error_iff :
    resolve name keyClass = .error e ↔
      ¬ Registered name keyClass ∧ e = .unknownAlgorithm name := by
  rw [← exists_resolve_iff_registered]
  constructor
  · intro refused
    refine ⟨?_, eq_unknownAlgorithm_of_resolve refused⟩
    rintro ⟨a, resolved⟩
    rw [refused] at resolved
    cases resolved
  · rintro ⟨unresolved, rfl⟩
    cases outcome : resolve name keyClass with
    | ok a => exact absurd ⟨a, outcome⟩ unresolved
    | error e => rw [eq_unknownAlgorithm_of_resolve outcome]

/-- The sorted table holds the entries in the strict order of the bytes of their names.  A search in it
reads none but its places, and finds for any name what a scan of the unsorted entries finds.  A look-up
succeeds exactly on the names that are registered for the family of the class, with the entry, the
class and its curve; any other name is refused as unknown. -/
theorem resolve_by_scan (name : String) (keyClass : KeyClass) :
    (table.toList.Perm entries ∧ table.toList.Pairwise fun first second =>
      Bytes.ofText first.name < Bytes.ofText second.name) ∧
    search? name = searchInside table name 0 table.size le_rfl ∧
    search? name = (entries.find? fun entry => entry.name = name) ∧
    ((∃ a, resolve name keyClass = .ok a) ↔ Registered name keyClass) ∧
    (∀ a, resolve name keyClass = .ok a ↔ Resolves name keyClass a) ∧
    ∀ e, resolve name keyClass = .error e ↔
      ¬ Registered name keyClass ∧ e = .unknownAlgorithm name := by
  refine ⟨⟨perm_table, pairwise_bytes_table⟩, ?_, search?_eq_find? name, ?_, ?_, ?_⟩
  · exact searchBetween_eq_searchInside le_rfl
  · exact exists_resolve_iff_registered
  · intro a
    exact resolve_eq_ok_iff_resolves
  · intro e
    exact resolve_eq_error_iff

/-- A registered name resolves for a class of its family.  For a class of the other family it is as unknown
as a name that only begins like a registered one. -/
theorem resolve_known_and_unknown_names :
    resolve "mlkem512" .ecxHybridKem = .ok ⟨"mlkem512", .ecxHybridKem, .mlkem512⟩ ∧
      resolve "mlkem512" .signature = .error (.unknownAlgorithm "mlkem512") ∧
      resolve "mlkem" .kem = .error (.unknownAlgorithm "mlkem") := by
  obtain ⟨-, -, -, -, resolves, -⟩ := resolve_by_scan "mlkem512" .ecxHybridKem
  obtain ⟨-, -, -, -, -, otherFamily⟩ := resolve_by_scan "mlkem512" .signature
  obtain ⟨-, -, -, -, -, unlisted⟩ := resolve_by_scan "mlkem" .kem
  refine ⟨(resolves _).2 ⟨by decide, rfl, rfl, .ecxHybridKem⟩, ?_, ?_⟩
  · refine (otherFamily _).2 ⟨?_, rfl⟩
    rintro ⟨entry, listed, named, curve, takes⟩
    have signatures : ∀ entry ∈ entries, entry.name = "mlkem512" →
        entry.primitive.family ≠ .signature := by decide
    exact signatures entry listed named (KeyClass.takes_iff.1 takes).1
  · refine (unlisted _).2 ⟨?_, rfl⟩
    rintro ⟨entry, listed, named, -⟩
    have noName : ∀ entry ∈ entries, entry.name ≠ "mlkem" := by decide
    exact noName entry listed named

end Registry

end HybridKeys
