/-
Module: HybridKeys.Proofs.RegistrySearch
Purpose: The binary search in the sorted table finds exactly the registered entries.
Main exports: Registry.Ordered, searchBetween_sound, searchBetween_complete, ordered_table,
  search?_eq_some_iff, resolve_eq_ok_iff
-/
import HybridKeys.Check
import HybridKeys.Registry
import Mathlib.Data.String.Basic

namespace HybridKeys.Registry

/-! ### The search -/

/-- The names of the entries grow from position to position. -/
def Ordered (sorted : Array Entry) : Prop :=
  ∀ (i j : ℕ) (_ : i < sorted.size) (_ : j < sorted.size), i < j → sorted[i].name < sorted[j].name

/-- What a search finds is an entry of the name. -/
theorem searchBetween_sound {sorted : Array Entry} {name : String} {low high : ℕ} {entry : Entry}
    (found : searchBetween sorted name low high = some entry) :
    entry ∈ sorted ∧ entry.name = name := by
  fun_induction searchBetween sorted name low high with
  | case1 low high nonempty middle outside => cases found
  | case2 low high nonempty middle candidate read same =>
      cases found
      exact ⟨Array.mem_of_getElem? read, same⟩
  | case3 low high nonempty middle candidate read other less inductionHypothesis =>
      exact inductionHypothesis found
  | case4 low high nonempty middle candidate read other notLess inductionHypothesis =>
      exact inductionHypothesis found
  | case5 low high closed => cases found

/-- In an ordered table an entry of the name is found from every interval that it lies in. -/
theorem searchBetween_complete {sorted : Array Entry} {name : String} {low high i : ℕ}
    (ordered : Ordered sorted) (bounded : high ≤ sorted.size) (inside : i < sorted.size)
    (fromLow : low ≤ i) (toHigh : i < high) (named : sorted[i].name = name) :
    searchBetween sorted name low high = some sorted[i] := by
  fun_induction searchBetween sorted name low high with
  | case1 low high nonempty middle outside =>
      have within : middle < sorted.size := by omega
      rw [Array.getElem?_eq_getElem within] at outside
      cases outside
  | case2 low high nonempty middle candidate read same =>
      obtain ⟨within, rfl⟩ := Array.getElem?_eq_some_iff.1 read
      rcases Nat.lt_trichotomy i middle with before | rfl | after
      · exact absurd (named.trans same.symm) (ordered i middle inside within before).ne
      · rfl
      · exact absurd (same.trans named.symm) (ordered middle i within inside after).ne
  | case3 low high nonempty middle candidate read other less inductionHypothesis =>
      obtain ⟨within, rfl⟩ := Array.getElem?_eq_some_iff.1 read
      have after : middle < i := by
        rcases Nat.lt_trichotomy i middle with before | rfl | after
        · exact absurd ((ordered i middle inside within before).trans less) (by simp [named])
        · exact absurd named other
        · exact after
      exact inductionHypothesis bounded after toHigh
  | case4 low high nonempty middle candidate read other notLess inductionHypothesis =>
      obtain ⟨within, rfl⟩ := Array.getElem?_eq_some_iff.1 read
      have before : i < middle := by
        rcases Nat.lt_trichotomy i middle with before | rfl | after
        · exact before
        · exact absurd named other
        · exact absurd (named ▸ ordered middle i within inside after) notLess
      exact inductionHypothesis (by omega) fromLow before
  | case5 low high closed => omega

/-! ### The table -/

/-- No name is registered twice. -/
theorem pairwise_name_ne : entries.Pairwise fun first second => first.name ≠ second.name := by
  decide

/-- Sorting by names orders the table, since no two names are equal. -/
theorem ordered_table : Ordered table := by
  have sorted : (entries.mergeSort fun first second => first.name ≤ second.name).Pairwise
      fun first second => decide (first.name ≤ second.name) = true := by
    apply List.pairwise_mergeSort
    · intro first second third one two
      simp only [decide_eq_true_eq] at one two ⊢
      exact one.trans two
    · intro first second
      simpa using le_total first.name second.name
  have distinct : (entries.mergeSort fun first second => first.name ≤ second.name).Pairwise
      fun first second => first.name ≠ second.name := by
    refine ((List.mergeSort_perm entries _).pairwise_iff ?_).2 pairwise_name_ne
    intro first second other
    exact other.symm
  intro i j before inside earlier
  have lower := List.pairwise_iff_getElem.1 sorted i j before inside earlier
  have apart := List.pairwise_iff_getElem.1 distinct i j before inside earlier
  exact lt_of_le_of_ne (of_decide_eq_true lower) apart

theorem mem_table {entry : Entry} : entry ∈ table ↔ entry ∈ entries := by
  simp [table]

/-- The search finds exactly the registered entries. -/
theorem search?_eq_some_iff {name : String} {entry : Entry} :
    search? name = some entry ↔ entry ∈ entries ∧ entry.name = name := by
  constructor
  · intro found
    obtain ⟨member, named⟩ := searchBetween_sound found
    exact ⟨mem_table.1 member, named⟩
  · rintro ⟨member, named⟩
    obtain ⟨i, inside, rfl⟩ := Array.mem_iff_getElem.1 (mem_table.2 member)
    exact searchBetween_complete ordered_table le_rfl inside (Nat.zero_le i) inside named

/-- A name is resolved for a class exactly when it is registered for the family of the class. -/
theorem resolve_eq_ok_iff {name : String} {keyClass : KeyClass} {a : Algorithm} :
    resolve name keyClass = .ok a ↔
      ⟨name, a.primitive⟩ ∈ entries ∧ a.primitive.family = keyClass.family ∧
        a.name = name ∧ a.keyClass = keyClass := by
  rw [resolve]
  cases found : search? name with
  | none =>
      simp only [reduceCtorEq, false_iff]
      rintro ⟨member, -⟩
      rw [search?_eq_some_iff.2 ⟨member, rfl⟩] at found
      cases found
  | some entry =>
      obtain ⟨member, rfl⟩ := search?_eq_some_iff.1 found
      dsimp only
      constructor
      · intro resolved
        by_cases fits : entry.primitive.family = keyClass.family
        · rw [if_pos fits] at resolved
          cases resolved
          exact ⟨member, fits, rfl, rfl⟩
        · rw [if_neg fits] at resolved
          cases resolved
      · rintro ⟨registered, fits, named, classed⟩
        have same : entry = ⟨entry.name, a.primitive⟩ :=
          Option.some.inj (found.symm.trans (search?_eq_some_iff.2 ⟨registered, rfl⟩))
        have samePrimitive : entry.primitive = a.primitive := congrArg Entry.primitive same
        rw [samePrimitive, if_pos fits]
        obtain ⟨_, _, _⟩ := a
        cases named
        cases classed
        rfl

end HybridKeys.Registry
