/-
Module: HybridKeys.Proofs.DistinctGenerations
Purpose: Keys of one class whose library keys differ are different keys, whatever classical key they
  share.
Main exports: Algorithm.libraryPart, libraryParts_of_keygen, Key.GeneratedBy, GeneratedBy.carries,
  distinct_generations_disagree, generations_from_one_seed_disagree
-/
import HybridKeys.Proofs.ExportImport
import HybridKeys.Proofs.KeyComparison
import HybridKeys.Proofs.Regeneration

namespace HybridKeys

/-!
Two hybrid keys may have been generated from one seed, and then their classical halves are equal.  What
sets them apart is what the library made for each.  It can be read back from the encoded keys: the class
of a key says how long the classical part is, and the rest is the library's.  So encoded keys of one class
that are equal come from equal library keys.
-/

namespace Algorithm

variable {a : Algorithm}

/-- What the library made of an encoded key: what follows the classical part, whose length the class
knows, or else all of it. -/
def libraryPart (a : Algorithm) (partLength : Curve → ℕ) (bytes : Bytes) : Bytes :=
  match a.curve with
  | none => bytes
  | some curve => Composite.pqPart (partLength curve) bytes

theorem libraryPart_congr {b : Algorithm} (sameClass : a.keyClass = b.keyClass) :
    a.libraryPart = b.libraryPart := by
  have sameCurve : a.curve = b.curve := congrArg KeyClass.curve sameClass
  funext partLength bytes
  rw [libraryPart, libraryPart, sameCurve]

/-- The library's keys are read back from what a generation made of them. -/
theorem libraryParts_of_keygen {memory : Memory} {seed : Option ClassicalKey} {draw : Draw}
    {made : GeneratedKey} (fits : a.SeedFits seed)
    (generated : a.keygen memory seed draw = .ok made) :
    a.libraryPart Curve.publicKeyLength made.publicKey = draw.keyPair.publicKey ∧
      a.libraryPart Curve.privateKeyLength made.privateKey.bytes = draw.keyPair.secretKey := by
  cases hybrid : a.curve with
  | none =>
      obtain ⟨pair, drawn, rfl⟩ := (keygen_eq_ok_iff_of_plain hybrid).1 generated
      obtain ⟨-, -, -, -, rfl⟩ := drawKeyPair_eq_ok_iff.1 drawn
      simp only [libraryPart, hybrid, and_self]
  | some curve =>
      obtain ⟨pair, scalar, drawn, holds, publicJoined, privateJoined, -⟩ :=
        (keygen_eq_ok_iff_of_hybrid hybrid).1 generated
      obtain ⟨-, -, -, -, rfl⟩ := drawKeyPair_eq_ok_iff.1 drawn
      obtain ⟨-, -, publicKey⟩ := Composite.joinPublic_eq_ok_iff.1 publicJoined
      obtain ⟨-, -, privateKey⟩ := Composite.joinPrivate_eq_ok_iff.1 privateJoined
      obtain ⟨sound, onCurve⟩ := sound_classicalSource hybrid fits draw
      obtain ⟨isPrivate, -⟩ := sound.held scalar holds
      rw [onCurve] at isPrivate
      have publicLength := sound.isPublic.1
      rw [onCurve] at publicLength
      constructor
      · rw [libraryPart, hybrid, publicKey]
        exact Composite.pqPart_layout publicLength _
      · rw [libraryPart, hybrid, privateKey]
        exact Composite.pqPart_layout isPrivate.1 _

end Algorithm

namespace Key

/-! ### Generations -/

/-- The key is what a successful generation with the draw left of a reachable key, or what one handed
out, by itself or through an adapter. -/
inductive GeneratedBy (draw : Draw) : Key → Prop where
  | regenerated {memory : Memory} {key after : Key} (reachable : key.Reachable)
      (succeeded : ((generate memory draw).run key).result = .ok ())
      (left : ((generate memory draw).run key).state = after) : GeneratedBy draw after
  | generation {memory : Memory} {generation : Generation} {key : Key}
      (made : ((generation.generate memory draw : Action Unit Key).run ()).result = .ok key) :
      GeneratedBy draw key
  | adapted {memory : Memory} {adapter : Adapter} {generation : Option Generation} {key : Key}
      (made : ((adapter.generate memory generation draw : Action Unit Key).run ()).result =
        .ok key) : GeneratedBy draw key

/-- Both parts are there, and the library's keys are read back from them. -/
structure Carries (key : Key) (pair : KeyPair) : Prop where
  publicPart : ∃ bytes, key.publicKey = some bytes ∧
    key.algorithm.libraryPart Curve.publicKeyLength bytes = pair.publicKey
  privatePart : ∃ secret, key.privateKey = some secret ∧
    key.algorithm.libraryPart Curve.privateKeyLength secret.bytes = pair.secretKey

theorem carries_withGenerated {memory : Memory} {key : Key} {draw : Draw} {made : GeneratedKey}
    (fits : key.algorithm.SeedFits key.seed)
    (generated : key.algorithm.keygen memory key.seed draw = .ok made) :
    (key.withGenerated made).Carries draw.keyPair := by
  obtain ⟨publicKey, privateKey⟩ := Algorithm.libraryParts_of_keygen fits generated
  exact ⟨⟨_, rfl, publicKey⟩, ⟨_, rfl, privateKey⟩⟩

theorem carries_of_generation {memory : Memory} {generation : Generation} {draw : Draw} {key : Key}
    (made : ((generation.generate memory draw : Action Unit Key).run ()).result = .ok key) :
    key.Carries draw.keyPair := by
  obtain ⟨origin, made, fresh, generated, rfl⟩ := exists_fresh_of_generation () made
  exact carries_withGenerated fresh.seedFits generated

/-- Every generated key carries the library's keys of its own draw. -/
theorem GeneratedBy.carries {key : Key} {draw : Draw} (generated : key.GeneratedBy draw) :
    key.Carries draw.keyPair := by
  cases generated with
  | @regenerated memory before _ reachable succeeded left =>
      rw [run_generate] at succeeded left
      cases done : before.algorithm.keygen memory before.seed draw with
      | error e =>
          rw [done] at succeeded
          cases succeeded
      | ok made =>
          rw [done] at left
          rw [← left]
          exact carries_withGenerated reachable.sound.seedFits done
  | generation made => exact carries_of_generation made
  | @adapted _ _ generation _ made =>
      cases generation with
      | none => cases made
      | some generation => exact carries_of_generation made

/-! ### Comparison -/

section Comparison

variable {key other : Key} {selection : Selection}

/-- Keys whose private parts differ agree on no selection that names the private part. -/
theorem agrees_eq_false_of_private_ne {mine theirs : Secret} (holds : key.privateKey = some mine)
    (otherHolds : other.privateKey = some theirs) (differ : mine ≠ theirs)
    (named : selection.privateKey = true) : key.agrees other selection = false := by
  rw [← Bool.not_eq_true, agrees_iff]
  rintro ⟨-, privatePart, -⟩
  obtain ⟨-, same⟩ := privatePart named
  rw [holds, otherHolds] at same
  exact differ (Option.some.inj same)

/-- A key agrees with itself on its algorithm and on its private part. -/
theorem agrees_self (key : Key) : key.agrees key (.privateHalf ∪ .domain) = true := by
  rw [agrees_union, agrees_privateHalf_iff.2 ⟨.refl key, rfl⟩, agrees_domain_iff.2 (.refl key),
    Bool.and_true]

/-- A comparison answers whether the keys agree. -/
theorem result_compare {σ : Type} (state : σ) :
    ((key.compare other selection : Action σ Bool).run state).result =
      .ok (key.agrees other selection) := by
  rw [run_compare]

/-- What a receiver finds under the name of the public part in what a key exports. -/
def exportedPublicKey (key : Key) (selection : Selection) : Except Error (Option Bytes) :=
  ((key.exportParts selection fun set =>
    Action.ofExcept (set.readOctets ParameterName.publicKey) : Action Unit _).run ()).result

/-- An export that names the public part hands it out under its name. -/
theorem exportedPublicKey_eq {bytes : Bytes} (holds : key.publicKey = some bytes)
    (named : selection.publicKey = true) :
    key.exportedPublicKey selection = .ok (some bytes) := by
  rw [exportedPublicKey, exportParts, Action.run_emit_bind, Action.run_ofExcept,
    exported_eq_carrying, ParameterSet.readOctets_carrying_public, selectedParts, named, onlyIf,
    if_pos rfl, holds]

end Comparison

/-- A comparison of two keys on a selection that names the private part denies that they agree, whichever
of them is asked. -/
def NeverMatch (one two : Key) : Prop :=
  ∀ selection : Selection, selection.privateKey = true →
    ((one.compare two selection : Action Unit Bool).run ()).result = .ok false ∧
      ((two.compare one selection : Action Unit Bool).run ()).result = .ok false

/-- Two generated keys of one class, with any seeds: if the library made different secret keys, the private
parts differ and the keys never match; if it made different public keys, the public parts differ and so do
the exported ones.  Each key matches itself. -/
theorem distinct_generations_disagree {one two : Key} {first second : Draw}
    (oneMade : one.GeneratedBy first) (twoMade : two.GeneratedBy second)
    (sameClass : one.algorithm.keyClass = two.algorithm.keyClass) :
    (first.keyPair.secretKey ≠ second.keyPair.secretKey →
      (∃ mine theirs, one.privateKey = some mine ∧ two.privateKey = some theirs ∧ mine ≠ theirs) ∧
        NeverMatch one two) ∧
    (first.keyPair.publicKey ≠ second.keyPair.publicKey →
      ∃ mine theirs, one.publicKey = some mine ∧ two.publicKey = some theirs ∧ mine ≠ theirs ∧
        ∀ selection : Selection, selection.publicKey = true →
          one.exportedPublicKey selection = .ok (some mine) ∧
            two.exportedPublicKey selection = .ok (some theirs)) ∧
    ((one.compare one (.privateHalf ∪ .domain) : Action Unit Bool).run ()).result = .ok true ∧
    ((two.compare two (.privateHalf ∪ .domain) : Action Unit Bool).run ()).result = .ok true := by
  obtain ⟨⟨publicKey, holdsPublic, publicCarried⟩, secret, holdsSecret, secretCarried⟩ :=
    oneMade.carries
  obtain ⟨⟨otherPublicKey, otherHoldsPublic, otherPublicCarried⟩, otherSecret, otherHoldsSecret,
    otherSecretCarried⟩ := twoMade.carries
  -- The keys may be of two algorithms, but of one class they keep the library's part in one place.
  rw [← Algorithm.libraryPart_congr sameClass] at otherPublicCarried otherSecretCarried
  refine ⟨?_, ?_, ?_, ?_⟩
  · intro librarySecretsDiffer
    have differ : secret ≠ otherSecret := by
      rintro rfl
      exact librarySecretsDiffer (secretCarried.symm.trans otherSecretCarried)
    refine ⟨⟨secret, otherSecret, holdsSecret, otherHoldsSecret, differ⟩, ?_⟩
    intro selection named
    rw [result_compare, result_compare,
      agrees_eq_false_of_private_ne holdsSecret otherHoldsSecret differ named,
      agrees_eq_false_of_private_ne otherHoldsSecret holdsSecret differ.symm named]
    exact ⟨rfl, rfl⟩
  · intro libraryKeysDiffer
    have differ : publicKey ≠ otherPublicKey := by
      rintro rfl
      exact libraryKeysDiffer (publicCarried.symm.trans otherPublicCarried)
    refine ⟨publicKey, otherPublicKey, holdsPublic, otherHoldsPublic, differ, ?_⟩
    intro selection named
    exact ⟨exportedPublicKey_eq holdsPublic named, exportedPublicKey_eq otherHoldsPublic named⟩
  · rw [result_compare, agrees_self]
  · rw [result_compare, agrees_self]

/-! ### Two keys from one seed -/

/-- A draw in which every byte of the library's keys is one. -/
def onesDraw : Draw := ⟨⟨List.replicate 800 1, List.replicate 1632 1⟩, fun _ => default⟩

/-- The seeded key after a generation. -/
def regeneratedKey (draw : Draw) : Key := ((generate .addressable draw).run seededKey).state

theorem generatedBy_regeneratedKey {draw : Draw}
    (declared : Algorithm.x25519Mlkem512.DeclaredLengths draw) :
    (regeneratedKey draw).GeneratedBy draw ∧
      (regeneratedKey draw).classical = some Algorithm.x25519Handle ∧
      (regeneratedKey draw).algorithm = Algorithm.x25519Mlkem512 := by
  have algorithm : seededKey.algorithm = Algorithm.x25519Mlkem512 := rfl
  have madeWith : seededKey.MadeWith (some Algorithm.x25519Handle) :=
    ⟨seededKey, origin_seededKey, .refl⟩
  have granted : seededKey.algorithm.GrantsKeygen .addressable :=
    Algorithm.x25519Mlkem512_grantsKeygen
  obtain ⟨succeeded, left⟩ := regenerated_of_madeWith madeWith granted (algorithm ▸ declared)
  have hybrid : seededKey.algorithm.curve = some .x25519 := by rw [algorithm]; rfl
  obtain ⟨classical, -, seeded, -, -, -, -, -, -, handle⟩ := left.hybrid .x25519 hybrid
  have held : (regeneratedKey draw).classical = some Algorithm.x25519Handle := by
    rw [regeneratedKey, handle, seeded _ rfl]
  have step : Step seededKey (regeneratedKey draw) := .direct .addressable (.generate draw) rfl
  have kept : (regeneratedKey draw).algorithm = Algorithm.x25519Mlkem512 :=
    step.identity.2.1.trans algorithm
  exact ⟨.regenerated origin_seededKey.reachable succeeded rfl, held, kept⟩

theorem declaredLengths_onesDraw : Algorithm.x25519Mlkem512.DeclaredLengths onesDraw :=
  ⟨List.length_replicate, List.length_replicate⟩

/-- Two generations from one seed share their classical key, and yet the keys never match. -/
theorem generations_from_one_seed_disagree :
    let one := regeneratedKey Algorithm.zeroDraw
    let two := regeneratedKey onesDraw
    one.GeneratedBy Algorithm.zeroDraw ∧ two.GeneratedBy onesDraw ∧
      one.classical = two.classical ∧ one.privateKey ≠ two.privateKey ∧
      one.publicKey ≠ two.publicKey ∧ NeverMatch one two := by
  intro one two
  obtain ⟨oneMade, oneHandle, oneAlgorithm⟩ := generatedBy_regeneratedKey
    (Algorithm.declaredLengths_zeroDraw rfl)
  obtain ⟨twoMade, twoHandle, twoAlgorithm⟩ := generatedBy_regeneratedKey declaredLengths_onesDraw
  have sameClass : (regeneratedKey Algorithm.zeroDraw).algorithm.keyClass =
      (regeneratedKey onesDraw).algorithm.keyClass := by
    rw [oneAlgorithm, twoAlgorithm]
  obtain ⟨secrets, publics, -, -⟩ := distinct_generations_disagree oneMade twoMade sameClass
  have zerosAreNotOnes {n : ℕ} (positive : n ≠ 0) :
      List.replicate n (0 : UInt8) ≠ List.replicate n 1 :=
    fun same => absurd ((List.replicate_right_inj positive).1 same) (by decide)
  have secretsDiffer : Algorithm.zeroDraw.keyPair.secretKey ≠ onesDraw.keyPair.secretKey := by
    simp only [Algorithm.zeroDraw, onesDraw]
    exact zerosAreNotOnes (by decide)
  have publicsDiffer : Algorithm.zeroDraw.keyPair.publicKey ≠ onesDraw.keyPair.publicKey := by
    simp only [Algorithm.zeroDraw, onesDraw]
    exact zerosAreNotOnes (by decide)
  obtain ⟨⟨mine, theirs, holds, otherHolds, differ⟩, neverMatch⟩ := secrets secretsDiffer
  obtain ⟨key, otherKey, holdsKey, otherHoldsKey, keysDiffer, -⟩ := publics publicsDiffer
  refine ⟨oneMade, twoMade, oneHandle.trans twoHandle.symm, ?_, ?_, neverMatch⟩
  · rw [holds, otherHolds]
    simpa using differ
  · rw [holdsKey, otherHoldsKey]
    simpa using keysDiffer

end Key

end HybridKeys
