/-
Module: HybridKeys.Proofs.LengthLimits
Purpose: What becomes of composite lengths, and of a split that relies on one, where a word cannot hold
  the sum.
Main exports: Composite.toNat_wordLength_eq_iff, Composite.splitWithin, splitWithin_eq,
  Composite.TrueOutcome, Composite.SplitsTruly, splitsTruly_iff, lengths_true_iff_they_fit
-/
import HybridKeys.Proofs.CompositeCodec

namespace HybridKeys.Composite

/-!
The bound of a split is a sum in a word, and it is made before anything limits the length in it.  For the
four lengths next to the size of a word it wraps around to less than the length of a header.  Then it
lets bytes through to the cuts behind it which do not have the place of the first cut; and bytes that
are even shorter are told that they miss the wrapped bound.
-/

variable {bytes : Bytes} {classicalLength : UInt64}

/-! ### Sums in words -/

theorem toNat_wordLength_eq_iff {classical pq : UInt64} :
    (wordLength classical pq).toNat = length classical.toNat pq.toNat ↔
      length classical.toNat pq.toNat < UInt64.size := by
  rw [toNat_wordLength_eq_mod]
  exact Nat.mod_eq_iff_lt (by decide)

/-- The sum in a bound passes the size of a word at most once. -/
theorem toNat_wordLength_zero_of_wraps (wraps : UInt64.size ≤ headerLength + classicalLength.toNat) :
    (wordLength classicalLength 0).toNat = headerLength + classicalLength.toNat - UInt64.size := by
  have word : classicalLength.toNat < UInt64.size := classicalLength.toNat_lt
  rw [toNat_wordLength_eq_mod, length, UInt64.toNat_zero, Nat.add_zero, Nat.mod_eq_sub_mod wraps]
  apply Nat.mod_eq_of_lt
  simp only [headerLength, UInt64.size] at word ⊢
  omega

/-- A bound that wrapped around does not even cover the header. -/
theorem toNat_wordLength_zero_lt (wraps : UInt64.size ≤ headerLength + classicalLength.toNat) :
    (wordLength classicalLength 0).toNat < headerLength := by
  have word : classicalLength.toNat < UInt64.size := classicalLength.toNat_lt
  rw [toNat_wordLength_zero_of_wraps wraps]
  omega

/-- No header names a length for which the bound wraps around. -/
theorem header_ne_of_wraps (wraps : UInt64.size ≤ headerLength + classicalLength.toNat) :
    Bytes.toNat (bytes.take headerLength) ≠ classicalLength.toNat := by
  have header := toNat_take_headerLength_lt bytes
  simp only [headerLength, UInt32.size, UInt64.size] at header wraps ⊢
  omega

/-! ### Cuts -/

/-- A cut of bytes at a place that they have; there is no cut outside of them. -/
def cut? (bytes : Bytes) (place : ℕ) : Option (Bytes × Bytes) :=
  if place ≤ bytes.length then some (bytes.take place, bytes.drop place) else none

/-- A split that makes both of its cuts inside of what it cuts.  Where one of them would fall outside, the
split is aborted and has no outcome. -/
def splitWithin (bytes : Bytes) (classicalLength : UInt64) :
    Option (Except Error (Bytes × Bytes)) :=
  let bound := (wordLength classicalLength 0).toNat
  if bytes.length < bound then
    some (.error (.mismatchedLength "composite key" bound bytes.length))
  else do
    let (header, rest) ← cut? bytes headerLength
    match Check.length "composite classical prefix" (Bytes.toNat header) classicalLength.toNat with
    | .error e => return .error e
    | .ok () => return .ok (← cut? rest classicalLength.toNat)

/-- Behind the bound and the header there is always room for the second cut. -/
theorem le_length_drop_of_named (bounded : (wordLength classicalLength 0).toNat ≤ bytes.length)
    (named : Bytes.toNat (bytes.take headerLength) = classicalLength.toNat) :
    classicalLength.toNat ≤ (bytes.drop headerLength).length := by
  by_cases fits : headerLength + classicalLength.toNat < UInt64.size
  · rw [toNat_wordLength_zero fits] at bounded
    rw [List.length_drop]
    omega
  · exact absurd named (header_ne_of_wraps (Nat.not_lt.1 fits))

/-- A split is aborted exactly when the bytes pass the bound without having a header, and else it ends as
it does when it takes what there is. -/
theorem splitWithin_eq (bytes : Bytes) (classicalLength : UInt64) :
    splitWithin bytes classicalLength =
      if (wordLength classicalLength 0).toNat ≤ bytes.length ∧ bytes.length < headerLength then none
      else some (split bytes classicalLength) := by
  rw [splitWithin, split_eq]
  by_cases short : bytes.length < (wordLength classicalLength 0).toNat
  · simp [short, Nat.not_le.2 short]
  · have bounded := Nat.not_lt.1 short
    by_cases noHeader : bytes.length < headerLength
    · simp [short, bounded, noHeader, cut?, Nat.not_le.2 noHeader]
    · have header : headerLength ≤ bytes.length := Nat.not_lt.1 noHeader
      by_cases named : Bytes.toNat (bytes.take headerLength) = classicalLength.toNat
      · have second := le_length_drop_of_named bounded named
        rw [List.length_drop] at second
        simp [short, noHeader, cut?, header, named, second, Check.length]
      · simp [short, noHeader, cut?, header, named, Check.length]

/-! ### Outcomes -/

/-- The outcomes that are true to numbers without a limit: the parts that the bytes encode, and a length
that they miss, of the whole or of the classical part. -/
inductive TrueOutcome (bytes : Bytes) (classicalLength : ℕ) : Except Error (Bytes × Bytes) → Prop where
  | parts {classical pq : Bytes} (length : classical.length = classicalLength)
      (encodes : Encodes classical pq bytes) :
      TrueOutcome bytes classicalLength (.ok (classical, pq))
  | short (wrong : bytes.length < headerLength + classicalLength) :
      TrueOutcome bytes classicalLength
        (.error (.mismatchedLength "composite key" (headerLength + classicalLength) bytes.length))
  | header (room : headerLength ≤ bytes.length)
      (wrong : Bytes.toNat (bytes.take headerLength) ≠ classicalLength) :
      TrueOutcome bytes classicalLength (.error (.mismatchedLength "composite classical prefix"
        classicalLength (Bytes.toNat (bytes.take headerLength))))

/-- What a true outcome tells of the length of the whole is the sum. -/
theorem TrueOutcome.expected_eq {whole expected actual : ℕ}
    (isTrue : TrueOutcome bytes whole
      (.error (.mismatchedLength "composite key" expected actual))) :
    expected = headerLength + whole := by
  generalize told : (Except.error (.mismatchedLength "composite key" expected actual) :
    Except Error (Bytes × Bytes)) = outcome at isTrue
  cases isTrue with
  | parts => cases told
  | short => exact (Error.mismatchedLength.inj (Except.error.inj told)).2.1
  | header => exact absurd (Error.mismatchedLength.inj (Except.error.inj told)).1 (by decide)

/-- The split is not aborted, and its outcome is true. -/
def SplitsTruly (bytes : Bytes) (classicalLength : UInt64) : Prop :=
  ∃ outcome, splitWithin bytes classicalLength = some outcome ∧
    TrueOutcome bytes classicalLength.toNat outcome

theorem splitsTruly_of_fits (fits : headerLength + classicalLength.toNat < UInt64.size) :
    SplitsTruly bytes classicalLength := by
  have ended : ¬ ((wordLength classicalLength 0).toNat ≤ bytes.length ∧
      bytes.length < headerLength) := by
    rw [toNat_wordLength_zero fits]
    omega
  refine ⟨split bytes classicalLength, (splitWithin_eq _ _).trans (if_neg ended), ?_⟩
  cases outcome : split bytes classicalLength with
  | ok parts =>
      obtain ⟨length, encodes⟩ := (split_eq_ok_iff_encodes fits).1 outcome
      exact .parts length encodes
  | error e =>
      rcases (split_eq_error_iff fits).1 outcome with ⟨wrong, rfl⟩ | ⟨room, wrong, rfl⟩
      · exact .short wrong
      · exact .header ((Nat.le_add_right _ _).trans room) wrong

section Wraps

variable (wraps : UInt64.size ≤ headerLength + classicalLength.toNat)
include wraps

/-- Past a bound that wrapped around, bytes with a header are still refused for what it names. -/
theorem splitWithin_of_header (room : headerLength ≤ bytes.length) :
    splitWithin bytes classicalLength =
      some (.error (.mismatchedLength "composite classical prefix" classicalLength.toNat
        (Bytes.toNat (bytes.take headerLength)))) := by
  have long : ¬ bytes.length < (wordLength classicalLength 0).toNat :=
    Nat.not_lt.2 ((toNat_wordLength_zero_lt wraps).le.trans room)
  simp [splitWithin, cut?, long, room, Check.length, header_ne_of_wraps wraps]

/-- Bytes that are too short for the wrapped bound are told the wrapped bound. -/
theorem splitWithin_of_short
    (short : bytes.length < headerLength + classicalLength.toNat - UInt64.size) :
    splitWithin bytes classicalLength =
      some (.error (.mismatchedLength "composite key"
        (headerLength + classicalLength.toNat - UInt64.size) bytes.length)) := by
  rw [splitWithin, toNat_wordLength_zero_of_wraps wraps, if_pos short]

theorem splitWithin_eq_none_iff :
    splitWithin bytes classicalLength = none ↔
      headerLength + classicalLength.toNat - UInt64.size ≤ bytes.length ∧
        bytes.length < headerLength := by
  rw [splitWithin_eq, toNat_wordLength_zero_of_wraps wraps]
  split <;> simp_all

end Wraps

/-- A split is true unless its bound wraps around over bytes that have no header. -/
theorem splitsTruly_iff :
    SplitsTruly bytes classicalLength ↔
      headerLength + classicalLength.toNat < UInt64.size ∨ headerLength ≤ bytes.length := by
  constructor
  · rintro ⟨outcome, ended, isTrue⟩
    by_contra neither
    obtain ⟨overflows, noHeader⟩ := not_or.1 neither
    have wraps := Nat.not_lt.1 overflows
    by_cases short : bytes.length < headerLength + classicalLength.toNat - UInt64.size
    · obtain rfl := Option.some.inj ((splitWithin_of_short wraps short).symm.trans ended)
      have positive : 0 < headerLength + classicalLength.toNat := Nat.lt_of_lt_of_le (by decide) wraps
      exact absurd isTrue.expected_eq (Nat.sub_lt positive (by decide)).ne
    · rw [(splitWithin_eq_none_iff wraps).2 ⟨Nat.not_lt.1 short, Nat.not_le.1 noHeader⟩] at ended
      cases ended
  · rintro (fits | room)
    · exact splitsTruly_of_fits fits
    · by_cases fits : headerLength + classicalLength.toNat < UInt64.size
      · exact splitsTruly_of_fits fits
      · have wraps := Nat.not_lt.1 fits
        exact ⟨_, splitWithin_of_header wraps room, .header room (header_ne_of_wraps wraps)⟩

/-- With a length that a header can name, as those of all curves are, every split is true. -/
theorem splitsTruly_ofNat {classicalLength : ℕ} (small : classicalLength < UInt32.size) :
    SplitsTruly bytes (UInt64.ofNat classicalLength) :=
  splitsTruly_of_fits (headerLength_add_ofNat_lt small)

/-- In words, the length of a composite key is its true length exactly when a word can hold it, and else
what is left of it after taking away the size of a word.  A split is aborted or tells a wrong length
exactly when its bound wraps around and the bytes have no header: it is aborted if they pass the bound
that is left, and tells that bound if they do not.  Bytes that have a header are refused for it. -/
theorem lengths_true_iff_they_fit (bytes : Bytes) (classicalLength pqLength : UInt64) :
    (wordLength classicalLength pqLength).toNat =
      length classicalLength.toNat pqLength.toNat % UInt64.size ∧
    ((wordLength classicalLength pqLength).toNat = length classicalLength.toNat pqLength.toNat ↔
      length classicalLength.toNat pqLength.toNat < UInt64.size) ∧
    (splitWithin bytes classicalLength = none ∨
      splitWithin bytes classicalLength = some (split bytes classicalLength)) ∧
    (SplitsTruly bytes classicalLength ↔
      headerLength + classicalLength.toNat < UInt64.size ∨ headerLength ≤ bytes.length) ∧
    (UInt64.size ≤ headerLength + classicalLength.toNat →
      let left := headerLength + classicalLength.toNat - UInt64.size
      (splitWithin bytes classicalLength = none ↔
        left ≤ bytes.length ∧ bytes.length < headerLength) ∧
      (bytes.length < left → splitWithin bytes classicalLength =
        some (.error (.mismatchedLength "composite key" left bytes.length))) ∧
      (headerLength ≤ bytes.length → splitWithin bytes classicalLength =
        some (.error (.mismatchedLength "composite classical prefix" classicalLength.toNat
          (Bytes.toNat (bytes.take headerLength)))))) := by
  refine ⟨toNat_wordLength_eq_mod _ _, toNat_wordLength_eq_iff, ?_, splitsTruly_iff, ?_⟩
  · rw [splitWithin_eq]
    split
    · exact .inl rfl
    · exact .inr rfl
  · intro wraps left
    exact ⟨splitWithin_eq_none_iff wraps, splitWithin_of_short wraps, splitWithin_of_header wraps⟩

/-- The greatest word is the length of a classical part: the length of the whole comes out as three, no
bytes at all are told to be three, and three bytes make the split abort. -/
theorem lengths_at_greatest_word :
    let greatest : UInt64 := 0xffffffffffffffff
    (wordLength greatest 0).toNat = 3 ∧ length greatest.toNat 0 = 18446744073709551619 ∧
      splitWithin [] greatest = some (split [] greatest) ∧
      split [] greatest = .error (.mismatchedLength "composite key" 3 0) ∧
      ¬ SplitsTruly [] greatest ∧
      splitWithin [0, 0, 0] greatest = none ∧ ¬ SplitsTruly [0, 0, 0] greatest := by
  intro greatest
  have wraps : UInt64.size ≤ headerLength + greatest.toNat := by decide
  have ended : splitWithin [] greatest = some (split [] greatest) :=
    (splitWithin_eq [] greatest).trans (if_neg (by decide))
  have refused : split [] greatest = .error (.mismatchedLength "composite key" 3 0) := by decide
  refine ⟨by decide, by decide, ended, refused, ?_, ?_, ?_⟩
  · rw [splitsTruly_iff]
    decide
  · exact (splitWithin_eq_none_iff wraps).2 (by decide)
  · rw [splitsTruly_iff]
    decide

end HybridKeys.Composite
