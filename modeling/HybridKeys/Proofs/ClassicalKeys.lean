/-
Module: HybridKeys.Proofs.ClassicalKeys
Purpose: What every handle to a classical key has in common, however it came to be.
Main exports: Curve.IsPrivate, Curve.IsPublic, Curve.isPublic_derive, ClassicalKey.Made,
  ClassicalKey.Sound, ClassicalKey.Made.sound
-/
import HybridKeys.ClassicalKey
import HybridKeys.Proofs.PointGroup

namespace HybridKeys

namespace Curve

/-- A private key of a curve: bytes of its private length that it accepts. -/
def IsPrivate (curve : Curve) (bytes : Bytes) : Prop :=
  bytes.length = curve.privateKeyLength ∧ curve.acceptsPrivate bytes = true

/-- A public key of a curve: bytes of its public length that it accepts. -/
def IsPublic (curve : Curve) (bytes : Bytes) : Prop :=
  bytes.length = curve.publicKeyLength ∧ curve.acceptsPublic bytes = true

/-- What is derived from a private key is a public key.  On P-256 this is the statement that no scalar
below the order of the group leads to the point at infinity. -/
theorem isPublic_derive {curve : Curve} {scalar : Bytes} (isPrivate : curve.IsPrivate scalar) :
    curve.IsPublic (curve.derive scalar) := by
  cases curve with
  | p256 =>
      have range : 0 < Bytes.toNat scalar ∧ Bytes.toNat scalar < P256.groupOrder := by
        simpa [acceptsPrivate] using isPrivate.2
      obtain ⟨x, y, onCurve, encoded⟩ := P256.exists_publicKey_eq_encode range.1 range.2
      constructor
      · rw [derive, encoded, P256.length_encode]
        rfl
      · rw [derive, encoded, acceptsPublic, P256.decode?_encode onCurve, Option.isSome_some]
  | x25519 => exact ⟨X25519.length_publicKey scalar, rfl⟩

end Curve

namespace ClassicalKey

/-! ### Handles from encoded keys -/

theorem ofPublic_eq_ok_iff {curve : Curve} {bytes : Bytes} {key : ClassicalKey} :
    ofPublic curve bytes = .ok key ↔ curve.IsPublic bytes ∧ key = ⟨curve, bytes, none⟩ := by
  simp only [ofPublic, Check.bind_eq_ok_iff, Check.length_eq_ok_iff, Check.that_eq_ok_iff,
    Curve.IsPublic]
  constructor
  · intro succeeded
    rcases succeeded with ⟨_, length, _, accepted, made⟩
    exact ⟨⟨length, accepted⟩, (Except.ok.inj made).symm⟩
  · intro conditions
    rcases conditions with ⟨⟨length, accepted⟩, rfl⟩
    exact ⟨(), length, (), accepted, rfl⟩

theorem ofPrivate_eq_ok_iff {curve : Curve} {bytes : Bytes} {key : ClassicalKey} :
    ofPrivate curve bytes = .ok key ↔ curve.IsPrivate bytes ∧ key = ofScalar curve bytes := by
  simp only [ofPrivate, Check.bind_eq_ok_iff, Check.length_eq_ok_iff, Check.that_eq_ok_iff,
    Curve.IsPrivate]
  constructor
  · intro succeeded
    rcases succeeded with ⟨_, length, _, accepted, made⟩
    exact ⟨⟨length, accepted⟩, (Except.ok.inj made).symm⟩
  · intro conditions
    rcases conditions with ⟨⟨length, accepted⟩, rfl⟩
    exact ⟨(), length, (), accepted, rfl⟩

/-! ### Histories of a handle -/

/-- The handles that a host can come by.  A copy of a handle is the handle itself. -/
inductive Made : ClassicalKey → Prop where
  | generate (curve : Curve) (fresh : curve.Scalar) : Made (ClassicalKey.generate curve fresh)
  | ofPublic {curve : Curve} {bytes : Bytes} {key : ClassicalKey}
      (read : ClassicalKey.ofPublic curve bytes = .ok key) : Made key
  | ofPrivate {curve : Curve} {bytes : Bytes} {key : ClassicalKey}
      (read : ClassicalKey.ofPrivate curve bytes = .ok key) : Made key
  | forgetPrivate {key : ClassicalKey} (made : Made key) : Made key.forgetPrivate

/-- A handle whose public key is one of its curve, and whose private key, where it is held, is one of its
curve and leads to the public key. -/
structure Sound (key : ClassicalKey) : Prop where
  isPublic : key.curve.IsPublic key.publicKey
  held : ∀ scalar, key.privateKey = some scalar →
    key.curve.IsPrivate scalar ∧ key.publicKey = key.curve.derive scalar

namespace Sound

variable {key : ClassicalKey}

theorem ofScalar {curve : Curve} {scalar : Bytes} (isPrivate : curve.IsPrivate scalar) :
    (ClassicalKey.ofScalar curve scalar).Sound where
  isPublic := Curve.isPublic_derive isPrivate
  held := by
    rintro _ ⟨⟩
    exact ⟨isPrivate, rfl⟩

/-- A sound handle with a private key is the handle of that private key. -/
theorem eq_ofScalar (sound : key.Sound) {scalar : Bytes} (holds : key.privateKey = some scalar) :
    key = ClassicalKey.ofScalar key.curve scalar := by
  obtain ⟨-, derived⟩ := sound.held scalar holds
  cases key
  simp_all [ClassicalKey.ofScalar]

theorem forgetPrivate (sound : key.Sound) : key.forgetPrivate.Sound where
  isPublic := sound.isPublic
  held := by
    intro scalar holds
    cases holds

end Sound

/-- Every handle is sound, whatever was done to come by it. -/
theorem Made.sound {key : ClassicalKey} (made : Made key) : key.Sound := by
  induction made with
  | generate curve fresh => exact Sound.ofScalar fresh.property
  | ofPublic read =>
      obtain ⟨isPublic, rfl⟩ := ofPublic_eq_ok_iff.1 read
      exact ⟨isPublic, by simp⟩
  | ofPrivate read =>
      obtain ⟨isPrivate, rfl⟩ := ofPrivate_eq_ok_iff.1 read
      exact Sound.ofScalar isPrivate
  | forgetPrivate _ inductionHypothesis => exact inductionHypothesis.forgetPrivate

end ClassicalKey

end HybridKeys
