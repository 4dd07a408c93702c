/-
Module: HybridKeys.Proofs.KeyGrammar
Purpose: The grammar of encoded keys, and the cause for which anything else is refused.
Main exports: P256.isSome_decode?_iff, Curve.IsPoint, Curve.IsScalar, KeyForm, KeyForm.Matches,
  KeyForm.handle?, KeyForm.Refuses, KeyForm.readParted_eq_error_iff, read_iff_grammar
-/
import HybridKeys.Proofs.CompositeCodec

namespace HybridKeys

/-!
A reader makes four checks in three places: the length of the whole, the header, the length of the
classical part, and the part itself.  The grammar says what passes all of them in terms of the bytes
alone.  Two checks never fail after the others: once the whole has its length there is room for the
classical part, and what is split off has the length of the part.
-/

/-! ### Classical parts -/

/-- What decodes as a point are the encodings of the finite points of the curve. -/
theorem P256.isSome_decode?_iff {bytes : Bytes} :
    (decode? bytes).isSome = true ↔ ∃ x y, OnCurve x y ∧ bytes = encode (some (x, y)) := by
  constructor
  · intro decoded
    unfold decode? at decoded
    split at decoded
    case h_2 => cases decoded
    case h_1 rest =>
      dsimp only at decoded
      split at decoded
      case isFalse => cases decoded
      case isTrue conditions =>
        obtain ⟨whole, onCurve⟩ := conditions
        have first : (rest.take fieldWidth).length = fieldWidth :=
          List.length_take_of_le (by omega)
        have second : (rest.drop fieldWidth).length = fieldWidth := by
          rw [List.length_drop]
          omega
        refine ⟨_, _, onCurve, ?_⟩
        have xBytes := Bytes.ofNat_toNat (rest.take fieldWidth)
        have yBytes := Bytes.ofNat_toNat (rest.drop fieldWidth)
        rw [first] at xBytes
        rw [second] at yBytes
        rw [encode, xBytes, yBytes, List.take_append_drop]
  · rintro ⟨x, y, onCurve, rfl⟩
    rw [decode?_encode onCurve, Option.isSome_some]

namespace Curve

/-- The bytes are a public key: on P-256 the tag 04 and two coordinates of 32 bytes, below the prime of the
field, which satisfy the equation of the curve; on X25519 any bytes. -/
def IsPoint : Curve → Bytes → Prop
  | .p256, bytes => ∃ x y : ℕ, x < P256.fieldPrime ∧ y < P256.fieldPrime ∧
      P256.curve.Equation x y ∧ bytes = 0x04 :: (Bytes.ofNat 32 x ++ Bytes.ofNat 32 y)
  | .x25519, _ => True

/-- The bytes are a private key: on P-256 a number from one to the order of the group less one; on X25519
any bytes. -/
def IsScalar : Curve → Bytes → Prop
  | .p256, bytes => 1 ≤ Bytes.toNat bytes ∧ Bytes.toNat bytes ≤ P256.groupOrder - 1
  | .x25519, _ => True

variable {curve : Curve} {bytes : Bytes}

theorem acceptsPublic_iff_isPoint : curve.acceptsPublic bytes = true ↔ curve.IsPoint bytes := by
  cases curve with
  | p256 =>
      rw [acceptsPublic, P256.isSome_decode?_iff, IsPoint]
      refine exists_congr fun x => exists_congr fun y => ?_
      rw [P256.onCurve_iff, P256.encode, and_assoc, and_assoc]
      rfl
  | x25519 => exact ⟨fun _ => trivial, fun _ => rfl⟩

theorem acceptsPrivate_iff_isScalar : curve.acceptsPrivate bytes = true ↔ curve.IsScalar bytes := by
  cases curve with
  | p256 =>
      have positive : 0 < P256.groupOrder := by decide
      rw [acceptsPrivate, Bool.and_eq_true, decide_eq_true_eq, decide_eq_true_eq, IsScalar]
      omega
  | x25519 => exact ⟨fun _ => trivial, fun _ => rfl⟩

end Curve

namespace ClassicalKey

variable {curve : Curve} {bytes : Bytes} {e : Error}

/-- Bytes of the length of a public key are refused only if they are no point. -/
theorem ofPublic_eq_error_iff (length : bytes.length = curve.publicKeyLength) :
    ofPublic curve bytes = .error e ↔ ¬ curve.IsPoint bytes ∧
      e = .invalidInput "classical public key" "not a valid P-256 point" := by
  rw [← Curve.acceptsPublic_iff_isPoint, Bool.not_eq_true]
  simp [ofPublic, Check.bind_eq_error_iff, Check.length_eq_error_iff, Check.that_eq_error_iff,
    length, pure, Except.pure]

/-- Bytes of the length of a private key are refused only if they are no scalar. -/
theorem ofPrivate_eq_error_iff (length : bytes.length = curve.privateKeyLength) :
    ofPrivate curve bytes = .error e ↔ ¬ curve.IsScalar bytes ∧
      e = .invalidInput "classical private key" "not a valid P-256 scalar" := by
  rw [← Curve.acceptsPrivate_iff_isScalar, Bool.not_eq_true]
  simp [ofPrivate, Check.bind_eq_error_iff, Check.length_eq_error_iff, Check.that_eq_error_iff,
    length, pure, Except.pure]

end ClassicalKey

/-! ### The two forms of keys -/

/-- What the encoded keys of one kind are made of. -/
structure KeyForm where
  /-- The context in which a wrong length of the whole is reported. -/
  context : String
  totalLength : Algorithm → ℕ
  partLength : Curve → ℕ
  /-- What the classical part is. -/
  IsPart : Curve → Bytes → Prop
  /-- The handle of a classical part. -/
  handle : Curve → Bytes → ClassicalKey
  /-- The context and the message with which anything else is refused in its place. -/
  partContext : String
  partMessage : String
  nameable : ∀ curve, partLength curve < UInt32.size
  room : ∀ {a : Algorithm} {curve : Curve}, a.curve = some curve →
    Composite.headerLength + partLength curve ≤ totalLength a

namespace KeyForm

def publicKey : KeyForm where
  context := "public key"
  totalLength := Algorithm.publicKeyLength
  partLength := Curve.publicKeyLength
  IsPart := Curve.IsPoint
  handle curve part := { curve := curve, publicKey := part, privateKey := none }
  partContext := "classical public key"
  partMessage := "not a valid P-256 point"
  nameable := Curve.publicKeyLength_lt
  room := by
    intro a curve hybrid
    rw [Algorithm.publicKeyLength, hybrid]
    exact Nat.le_add_right _ _

def privateKey : KeyForm where
  context := "private key"
  totalLength := Algorithm.privateKeyLength
  partLength := Curve.privateKeyLength
  IsPart := Curve.IsScalar
  handle curve part :=
    { curve := curve, publicKey := curve.derive part, privateKey := some part }
  partContext := "classical private key"
  partMessage := "not a valid P-256 scalar"
  nameable := Curve.privateKeyLength_lt
  room := by
    intro a curve hybrid
    rw [Algorithm.privateKeyLength, hybrid]
    exact Nat.le_add_right _ _

/-- The bytes have the length of the whole, and for a hybrid algorithm they start with the length of the
classical part in four bytes and have a classical part next. -/
structure Matches (form : KeyForm) (a : Algorithm) (bytes : Bytes) : Prop where
  length : bytes.length = form.totalLength a
  header : ∀ curve, a.curve = some curve →
    bytes.take 4 = Bytes.ofNat 4 (form.partLength curve)
  part : ∀ curve, a.curve = some curve →
    form.IsPart curve ((bytes.drop 4).take (form.partLength curve))

/-- The handle of the classical part of a key; the key of a plain algorithm has none. -/
def handle? (form : KeyForm) (a : Algorithm) (bytes : Bytes) : Option ClassicalKey :=
  a.curve.map fun curve => form.handle curve ((bytes.drop 4).take (form.partLength curve))

/-- The causes for which bytes are refused.  Each one presupposes that there is none before it. -/
inductive Refuses (form : KeyForm) (a : Algorithm) (bytes : Bytes) : Error → Prop where
  | length (wrong : bytes.length ≠ form.totalLength a) :
      Refuses form a bytes (.mismatchedLength form.context (form.totalLength a) bytes.length)
  | header {curve : Curve} (length : bytes.length = form.totalLength a)
      (hybrid : a.curve = some curve)
      (wrong : bytes.take 4 ≠ Bytes.ofNat 4 (form.partLength curve)) :
      Refuses form a bytes (.mismatchedLength "composite classical prefix" (form.partLength curve)
        (Bytes.toNat (bytes.take 4)))
  | part {curve : Curve} (length : bytes.length = form.totalLength a) (hybrid : a.curve = some curve)
      (header : bytes.take 4 = Bytes.ofNat 4 (form.partLength curve))
      (wrong : ¬ form.IsPart curve ((bytes.drop 4).take (form.partLength curve))) :
      Refuses form a bytes (.invalidInput form.partContext form.partMessage)

variable {form : KeyForm} {a : Algorithm} {bytes : Bytes}

/-- Where there is room, a header names the length exactly when it is the writing of the length. -/
theorem announces_iff {curve : Curve} (length : bytes.length = form.totalLength a)
    (hybrid : a.curve = some curve) :
    Composite.Announces (form.partLength curve) bytes ↔
      bytes.take 4 = Bytes.ofNat 4 (form.partLength curve) :=
  Composite.announces_iff_header (form.nameable curve) (length ▸ form.room hybrid)

/-- What passes the checks one after the other is what the grammar has. -/
theorem matches_iff {valid : Curve → Bytes → Prop}
    (spec : ∀ {curve part}, part.length = form.partLength curve →
      (valid curve part ↔ form.IsPart curve part)) :
    (bytes.length = form.totalLength a ∧ ∀ curve, a.curve = some curve →
      Composite.Announces (form.partLength curve) bytes ∧
        valid curve (Composite.classicalPart (form.partLength curve) bytes)) ↔
      form.Matches a bytes := by
  constructor
  · intro passed
    obtain ⟨length, parts⟩ := passed
    refine ⟨length, ?_, ?_⟩
    · intro curve hybrid
      exact (parts curve hybrid).1.header_eq
    · intro curve hybrid
      obtain ⟨announces, isValid⟩ := parts curve hybrid
      exact (spec announces.length_classicalPart).1 isValid
  · intro grammar
    refine ⟨grammar.length, ?_⟩
    intro curve hybrid
    have announces := (announces_iff grammar.length hybrid).2 (grammar.header curve hybrid)
    exact ⟨announces, (spec announces.length_classicalPart).2 (grammar.part curve hybrid)⟩

/-- If classical parts of the right length are refused only for what they are, then a reading fails for
the causes of the grammar. -/
theorem readParted_eq_error_iff (form : KeyForm)
    {readPart : Curve → Bytes → Except Error ClassicalKey}
    (spec : ∀ {curve part e}, part.length = form.partLength curve →
      (readPart curve part = .error e ↔
        ¬ form.IsPart curve part ∧ e = .invalidInput form.partContext form.partMessage))
    {e : Error} :
    a.readParted form.context (form.totalLength a) form.partLength readPart bytes = .error e ↔
      form.Refuses a bytes e := by
  rw [Algorithm.readParted, Check.bind_eq_error_iff, Check.length_eq_error_iff]
  constructor
  · intro failed
    rcases failed with ⟨wrong, rfl⟩ | ⟨_, checked, failed⟩
    · exact .length wrong
    · have length := Check.length_eq_ok_iff.1 checked
      cases hybrid : a.curve with
      | none =>
          rw [hybrid] at failed
          cases failed
      | some curve =>
          simp only [hybrid, Check.bind_eq_error_iff,
            Composite.split_ofNat_eq_error_iff (form.nameable curve) (length ▸ form.room hybrid),
            Composite.split_ofNat_eq_ok_iff (form.nameable curve)] at failed
          rcases failed with ⟨wrong, rfl⟩ | ⟨_, ⟨announces, rfl⟩, failed | ⟨_, -, ⟨⟩⟩⟩
          · refine .header length hybrid (mt (announces_iff length hybrid).2 ?_)
            exact fun announces => wrong announces.2
          · obtain ⟨wrong, rfl⟩ := (spec announces.length_classicalPart).1 failed
            exact .part length hybrid announces.header_eq wrong
  · intro refuses
    cases refuses with
    | length wrong => exact .inl ⟨wrong, rfl⟩
    | @header curve length hybrid wrong =>
        refine .inr ⟨(), Check.length_eq_ok_iff.2 length, ?_⟩
        have room : Composite.headerLength + form.partLength curve ≤ bytes.length :=
          length ▸ form.room hybrid
        simp only [hybrid, Check.bind_eq_error_iff,
          Composite.split_ofNat_eq_error_iff (form.nameable curve) room]
        refine .inl ⟨?_, rfl⟩
        intro named
        exact wrong ((announces_iff length hybrid).1 ⟨room, named⟩)
    | @part curve length hybrid header wrong =>
        refine .inr ⟨(), Check.length_eq_ok_iff.2 length, ?_⟩
        have announces := (announces_iff length hybrid).2 header
        simp only [hybrid, Check.bind_eq_error_iff,
          Composite.split_ofNat_eq_ok_iff (form.nameable curve)]
        exact .inr ⟨_, ⟨announces, rfl⟩,
          .inl ((spec announces.length_classicalPart).2 ⟨wrong, rfl⟩)⟩

end KeyForm

/-! ### Readers and grammar -/

namespace Algorithm

open KeyForm

variable {a : Algorithm} {bytes : Bytes}

theorem acceptsPublic_iff_matches : a.AcceptsPublic bytes ↔ publicKey.Matches a bytes := by
  have spec : ∀ {curve : Curve} {part : Bytes}, part.length = publicKey.partLength curve →
      (curve.IsPublic part ↔ publicKey.IsPart curve part) := by
    intro curve part length
    exact (and_iff_right length).trans Curve.acceptsPublic_iff_isPoint
  rw [← matches_iff spec]
  exact ⟨fun accepts => ⟨accepts.length, accepts.hybrid⟩, fun passed => ⟨passed.1, passed.2⟩⟩

theorem acceptsPrivate_iff_matches : a.AcceptsPrivate bytes ↔ privateKey.Matches a bytes := by
  have spec : ∀ {curve : Curve} {part : Bytes}, part.length = privateKey.partLength curve →
      (curve.IsPrivate part ↔ privateKey.IsPart curve part) := by
    intro curve part length
    exact (and_iff_right length).trans Curve.acceptsPrivate_iff_isScalar
  rw [← matches_iff spec]
  exact ⟨fun accepts => ⟨accepts.length, accepts.hybrid⟩, fun passed => ⟨passed.1, passed.2⟩⟩

theorem readPublic_eq_error_iff {e : Error} :
    a.readPublic bytes = .error e ↔ publicKey.Refuses a bytes e := by
  rw [readPublic_eq_readParted]
  exact publicKey.readParted_eq_error_iff ClassicalKey.ofPublic_eq_error_iff

theorem readPrivate_eq_error_iff {e : Error} :
    a.readPrivate bytes = .error e ↔ privateKey.Refuses a bytes e := by
  rw [readPrivate_eq_readParted]
  exact privateKey.readParted_eq_error_iff ClassicalKey.ofPrivate_eq_error_iff

end Algorithm

/-- Bytes are never refused as too short for their classical part, unless the length of the whole is
reported in the same words. -/
theorem KeyForm.not_refuses_tooShort {form : KeyForm} (other : form.context ≠ "composite key")
    (a : Algorithm) (bytes : Bytes) (expected actual : ℕ) :
    ¬ form.Refuses a bytes (.mismatchedLength "composite key" expected actual) := by
  intro refuses
  generalize cause : Error.mismatchedLength "composite key" expected actual = e at refuses
  cases refuses with
  | length => exact other (Error.mismatchedLength.inj cause).1.symm
  | header => exact absurd (Error.mismatchedLength.inj cause).1 (by decide)
  | part => cases cause

/-- Reading an encoded key succeeds exactly on the grammar of its form, with the handle of its classical
part, and fails with the cause for which the grammar refuses the bytes.  That they are too short for the
classical part is never the cause. -/
theorem read_iff_grammar (a : Algorithm) (bytes : Bytes) :
    (∀ handle, a.readPublic bytes = .ok handle ↔
      KeyForm.publicKey.Matches a bytes ∧ handle = KeyForm.publicKey.handle? a bytes) ∧
    (∀ handle, a.readPrivate bytes = .ok handle ↔
      KeyForm.privateKey.Matches a bytes ∧ handle = KeyForm.privateKey.handle? a bytes) ∧
    (∀ e, a.readPublic bytes = .error e ↔ KeyForm.publicKey.Refuses a bytes e) ∧
    (∀ e, a.readPrivate bytes = .error e ↔ KeyForm.privateKey.Refuses a bytes e) ∧
    ∀ expected actual,
      a.readPublic bytes ≠ .error (.mismatchedLength "composite key" expected actual) ∧
      a.readPrivate bytes ≠ .error (.mismatchedLength "composite key" expected actual) := by
  refine ⟨?_, ?_, ?_, ?_, ?_⟩
  · intro handle
    rw [Algorithm.readPublic_eq_ok_iff, Algorithm.acceptsPublic_iff_matches]
    rfl
  · intro handle
    rw [Algorithm.readPrivate_eq_ok_iff, Algorithm.acceptsPrivate_iff_matches]
    rfl
  · intro e
    exact Algorithm.readPublic_eq_error_iff
  · intro e
    exact Algorithm.readPrivate_eq_error_iff
  · intro expected actual
    rw [Ne, Ne, Algorithm.readPublic_eq_error_iff, Algorithm.readPrivate_eq_error_iff]
    exact ⟨KeyForm.not_refuses_tooShort (by decide) a bytes expected actual,
      KeyForm.not_refuses_tooShort (by decide) a bytes expected actual⟩

end HybridKeys
