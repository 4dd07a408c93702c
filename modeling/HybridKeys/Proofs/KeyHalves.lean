/-
Module: HybridKeys.Proofs.KeyHalves
Purpose: When the public and the private part of a hybrid key belong together, and how they come not to.
Main exports: Key.HalvesApart, Key.ImportedApart, ImportedApart.halvesApart,
  Reachable.importedApart, classical_half_iff_not_importedApart, imported_halves_apart
-/
import HybridKeys.Proofs.ExportImport

namespace HybridKeys.Key

/-!
A generation makes both halves of a key from one classical key, and a new public key erases the private
one.  An import takes the two parts from independent parameters, reads each by itself, and compares
nothing.  So the halves of a reachable key belong together except after an import that was handed
halves which do not.
-/

/-- The key holds both parts, and their classical halves are not one key pair. -/
def HalvesApart (key : Key) : Prop :=
  ∃ publicKey privateKey, key.publicKey = some publicKey ∧ key.privateKey = some privateKey ∧
    ¬ key.algorithm.HalvesBelong publicKey privateKey.bytes

/-- The history of a key whose parts were brought together by an import although they do not belong
together, and were kept since. -/
inductive ImportedApart : Key → Prop where
  | imported {memory : Memory} {key after : Key} {selection : Selection} {set : ParameterSet}
      {publicKey privateKey : Bytes} (reachable : key.Reachable)
      (publicSupplied : Parts.taken selection.publicKey set ParameterName.publicKey =
        .ok (some publicKey))
      (privateSupplied : Parts.taken selection.privateKey set ParameterName.privateKey =
        .ok (some privateKey))
      (apart : ¬ key.algorithm.HalvesBelong publicKey privateKey)
      (called : (importParts memory selection set).exec key = .ok after) : ImportedApart after
  | kept {key after : Key} (apart : ImportedApart key) (step : Step key after)
      (samePublic : after.publicKey = key.publicKey)
      (samePrivate : after.privateKey = key.privateKey) : ImportedApart after

theorem exec_importParts_eq_ok_iff {memory : Memory} {selection : Selection} {set : ParameterSet}
    {key after : Key} :
    (importParts memory selection set).exec key = .ok after ↔
      ∃ parts, Parts.read memory key.algorithm selection set = .ok parts ∧
        after = key.withParts parts := by
  rw [Action.exec, run_importParts]
  cases Parts.read memory key.algorithm selection set with
  | error e => simp [Except.map]
  | ok parts => simp [Except.map, eq_comm]

/-- What was imported apart stays apart as long as it is kept. -/
theorem ImportedApart.halvesApart {key : Key} (importedApart : key.ImportedApart) :
    key.HalvesApart := by
  induction importedApart with
  | imported reachable publicSupplied privateSupplied apart called =>
      obtain ⟨parts, read, rfl⟩ := exec_importParts_eq_ok_iff.1 called
      obtain ⟨supplied, -⟩ := Parts.read_eq_ok_iff.1 read
      have publicPart := Except.ok.inj (supplied.publicPart.symm.trans publicSupplied)
      have privatePart := Except.ok.inj (supplied.privatePart.symm.trans privateSupplied)
      obtain ⟨privateKey, held, rfl⟩ := Option.map_eq_some_iff.1 privatePart
      exact ⟨_, privateKey, publicPart, held, apart⟩
  | kept _ step samePublic samePrivate inductionHypothesis =>
      obtain ⟨publicKey, privateKey, holdsPublic, holdsPrivate, apart⟩ := inductionHypothesis
      refine ⟨publicKey, privateKey, samePublic.trans holdsPublic, samePrivate.trans holdsPrivate, ?_⟩
      rw [step.identity.2.1]
      exact apart

/-- A generation does not make halves that do not belong together. -/
theorem not_halvesApart_withGenerated {memory : Memory} {key : Key} {draw : Draw}
    {made : GeneratedKey} (seedFits : key.algorithm.SeedFits key.seed)
    (done : key.algorithm.keygen memory key.seed draw = .ok made) :
    ¬ (key.withGenerated made).HalvesApart := by
  rintro ⟨_, _, ⟨⟩, ⟨⟩, apart⟩
  exact apart (Algorithm.generates_of_keygen seedFits done).halvesBelong

/-- Halves that do not belong together were imported. -/
theorem Reachable.importedApart {key : Key} (reachable : key.Reachable) (apart : key.HalvesApart) :
    key.ImportedApart := by
  revert apart
  refine Reachable.effectInduction (motive := fun key => key.HalvesApart → key.ImportedApart)
    ?_ ?_ ?_ reachable
  · intro origin fresh apart
    rcases apart with ⟨_, _, holdsPublic, -⟩
    rw [fresh.parts.1] at holdsPublic
    cases holdsPublic
  · intro memory origin draw made fresh done apart
    exact absurd apart (not_halvesApart_withGenerated fresh.seedFits done)
  · intro before after reachable effect inductionHypothesis apart
    cases effect with
    | generated draw done =>
        exact absurd apart (not_halvesApart_withGenerated reachable.sound.seedFits done)
    | @imported memory _ parts selection set read =>
        obtain ⟨supplied, -⟩ := Parts.read_eq_ok_iff.1 read
        obtain ⟨publicKey, privateKey, holdsPublic, holdsPrivate, apart⟩ := apart
        have publicPart : parts.publicKey = some publicKey := holdsPublic
        have privatePart : parts.privateKey = some privateKey := holdsPrivate
        refine .imported reachable (publicPart ▸ supplied.publicPart) ?_ apart
          (exec_importParts_eq_ok_iff.2 ⟨parts, read, rfl⟩)
        rw [supplied.privatePart, privatePart, Option.map_some]
    | replaced bytes read =>
        obtain ⟨_, _, -, ⟨⟩, -⟩ := apart
    | queried _ query granted =>
        exact .kept (inductionHypothesis apart) (Effect.queried before query granted).step rfl rfl

theorem Reachable.halvesApart_iff {key : Key} (reachable : key.Reachable) :
    key.HalvesApart ↔ key.ImportedApart :=
  ⟨reachable.importedApart, ImportedApart.halvesApart⟩

/-- The handle of a sound hybrid key with a private part has the public key of that part. -/
theorem Sound.classical_eq_ofScalar {key : Key} (sound : key.Sound) {curve : Curve} {privateKey : Secret}
    (hybrid : key.algorithm.curve = some curve) (holdsPrivate : key.privateKey = some privateKey) :
    key.classical = some (.ofScalar curve
      (Composite.classicalPart curve.privateKeyLength privateKey.bytes)) := by
  rw [sound.classical_eq_handle, holdsPrivate, Algorithm.handle, Algorithm.privateHandle, hybrid,
    Option.map_some]

section Halves

variable {key : Key} {curve : Curve} {publicKey : Bytes} {privateKey : Secret}

/-- In a reachable hybrid key with both parts, the classical half of the public part is the public key
of the classical half of the private part, and so the one that the handle shows, exactly when the two
parts did not come from an import of halves that do not belong together. -/
theorem classical_half_iff_not_importedApart (reachable : key.Reachable)
    (hybrid : key.algorithm.curve = some curve) (holdsPublic : key.publicKey = some publicKey)
    (holdsPrivate : key.privateKey = some privateKey) :
    (Composite.classicalPart curve.publicKeyLength publicKey =
        curve.derive (Composite.classicalPart curve.privateKeyLength privateKey.bytes) ↔
      ¬ key.ImportedApart) ∧
    ((∃ handle, key.classical = some handle ∧
        handle.publicKey = Composite.classicalPart curve.publicKeyLength publicKey) ↔
      ¬ key.ImportedApart) := by
  have belong : Composite.classicalPart curve.publicKeyLength publicKey =
      curve.derive (Composite.classicalPart curve.privateKeyLength privateKey.bytes) ↔
        ¬ key.ImportedApart := by
    rw [← reachable.halvesApart_iff]
    constructor
    · intro same halvesApart
      rcases halvesApart with ⟨_, _, held, heldPrivate, apart⟩
      cases holdsPublic.symm.trans held
      cases holdsPrivate.symm.trans heldPrivate
      apply apart
      intro _ sameCurve
      cases hybrid.symm.trans sameCurve
      exact same
    · intro together
      by_contra differ
      refine together ⟨publicKey, privateKey, holdsPublic, holdsPrivate, ?_⟩
      intro halvesBelong
      exact differ (halvesBelong curve hybrid)
  refine ⟨belong, ?_⟩
  rw [← belong, reachable.sound.classical_eq_ofScalar hybrid holdsPrivate]
  constructor
  · intro shown
    rcases shown with ⟨_, ⟨⟩, same⟩
    exact same.symm
  · intro same
    exact ⟨_, rfl, same.symm⟩

end Halves

/-- An import of a private part with its own public key counts as belonging together. -/
theorem not_importedApart_of_own_public_key :
    let scalar := List.replicate 32 1
    ¬ (importedPair (Curve.x25519.derive scalar) scalar).ImportedApart := by
  intro scalar
  have isPrivate : Curve.x25519.IsPrivate scalar := ⟨List.length_replicate, rfl⟩
  have isPublic := Curve.isPublic_derive isPrivate
  have left := importedPair_eq isPublic.1 isPrivate.1
  have hybrid : (importedPair (Curve.x25519.derive scalar) scalar).algorithm.curve =
      some .x25519 := by rw [left]; rfl
  have belong := (classical_half_iff_not_importedApart
    (reachable_importedPair (Curve.x25519.derive scalar) scalar) hybrid (by rw [left]; rfl)
    (by rw [left]; rfl)).1
  apply belong.1
  rw [publicKeyOf, privateKeyOf, Composite.classicalPart_layout isPublic.1,
    Composite.classicalPart_layout isPrivate.1]

theorem derive_replicate_one_ne :
    Curve.x25519.derive (List.replicate 32 1) ≠ List.replicate 32 9 := by
  decide +kernel

/-- The public key of one origin and the private key of another: the import succeeds, and the hybrid key
holds a public part that its private part does not lead to and that its handle does not show. -/
theorem imported_halves_apart :
    let key := importedPair (List.replicate 32 9) (List.replicate 32 1)
    key.Reachable ∧ key.algorithm.curve = some .x25519 ∧
      ∃ publicKey privateKey handle, key.publicKey = some publicKey ∧
        key.privateKey = some privateKey ∧ key.classical = some handle ∧
        Composite.classicalPart 32 publicKey ≠
          Curve.x25519.derive (Composite.classicalPart 32 privateKey.bytes) ∧
        handle.publicKey ≠ Composite.classicalPart 32 publicKey := by
  intro key
  have left : key = (withoutParts .x25519Mlkem512).withParts _ :=
    importedPair_eq List.length_replicate List.length_replicate
  have reachable : key.Reachable :=
    reachable_importedPair (List.replicate 32 9) (List.replicate 32 1)
  have publicHalf : Composite.classicalPart 32 (publicKeyOf (List.replicate 32 9)) =
      List.replicate 32 9 := Composite.classicalPart_layout List.length_replicate _
  have privateHalf : Composite.classicalPart 32 (privateKeyOf (List.replicate 32 1)) =
      List.replicate 32 1 := Composite.classicalPart_layout List.length_replicate _
  have hybrid : key.algorithm.curve = some .x25519 := by rw [left]; rfl
  have holdsPrivate : key.privateKey = some ⟨privateKeyOf (List.replicate 32 1)⟩ := by
    rw [left]; rfl
  refine ⟨reachable, hybrid, publicKeyOf (List.replicate 32 9), _, _, by rw [left]; rfl, holdsPrivate,
    reachable.sound.classical_eq_ofScalar hybrid holdsPrivate, ?_, ?_⟩
  · rw [publicHalf, privateHalf]
    exact derive_replicate_one_ne.symm
  · rw [publicHalf, ClassicalKey.ofScalar, Curve.privateKeyLength, privateHalf]
    exact derive_replicate_one_ne

end HybridKeys.Key
