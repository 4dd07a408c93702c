/-
Module: HybridKeys.Proofs.KeyGeneration
Purpose: What a key generation makes of the keys of the library and of every classical key that it may be
  given.
Main exports: Algorithm.DeclaredLengths, Algorithm.GrantsKeygen, keygen_of_plain, keygen_of_hybrid,
  Algorithm.WellFormed, Generates.wellFormed, keygen_wellFormed_iff, keygen_other_curve
-/
import HybridKeys.Proofs.KeyHistories

namespace HybridKeys

/-!
A generation puts a classical key in front of what the library makes.  It takes the lengths from the
keys that it has, while a reader takes them from the class of the algorithm.  The two agree as long as
the classical key is on the curve of the class.  A generation does not look at that: it asks only for the
scalar.
-/

/-! ### Generations that succeed -/

/-- Public keys of one length are on one curve. -/
theorem Curve.eq_of_publicKeyLength_eq {one two : Curve}
    (same : one.publicKeyLength = two.publicKeyLength) : one = two := by
  cases one with
  | p256 =>
      cases two with
      | p256 => rfl
      | x25519 => cases same
  | x25519 =>
      cases two with
      | p256 => cases same
      | x25519 => rfl

namespace Algorithm

variable {a : Algorithm} {memory : Memory} {given : Option ClassicalKey} {draw : Draw}

/-- The library made keys of the lengths that the primitive declares. -/
structure DeclaredLengths (a : Algorithm) (draw : Draw) : Prop where
  publicKey : draw.keyPair.publicKey.length = a.primitive.publicKeyLength
  secretKey : draw.keyPair.secretKey.length = a.primitive.secretKeyLength

/-- There is memory for the keys of the library and, in a hybrid class, for the keys that they become a
part of. -/
structure GrantsKeygen (a : Algorithm) (memory : Memory) : Prop where
  publicBuffer : memory.grants "public key" a.primitive.publicKeyLength = true
  secretBuffer : memory.grants "secret buffer" a.primitive.secretKeyLength = true
  compositePublic : a.curve.isSome = true →
    memory.grants "composite public key" a.publicKeyLength = true
  compositePrivate : a.curve.isSome = true →
    memory.grants "secret buffer" a.privateKeyLength = true

/-- A plain algorithm does not look at the classical key that it is given. -/
theorem keygen_eq_of_plain (plain : a.curve = none) (given : Option ClassicalKey) (draw : Draw) :
    a.keygen memory given draw = a.keygen memory none draw := by
  simp only [keygen, plain]

section Granted

variable (granted : a.GrantsKeygen memory) (declared : a.DeclaredLengths draw)
include granted declared

theorem drawKeyPair_of_granted : a.drawKeyPair memory draw = .ok draw.keyPair :=
  drawKeyPair_eq_ok_iff.2 ⟨granted.publicBuffer, granted.secretBuffer, declared.publicKey,
    declared.secretKey, rfl⟩

/-- A plain key is what the library made. -/
theorem keygen_of_plain (plain : a.curve = none) :
    a.keygen memory given draw = .ok ⟨draw.keyPair.publicKey, ⟨draw.keyPair.secretKey⟩, none⟩ :=
  (keygen_eq_ok_iff_of_plain plain).2
    ⟨draw.keyPair, drawKeyPair_of_granted granted declared, rfl⟩

end Granted

/-- A hybrid key is a classical key, whatever its curve, laid out before what the library made. -/
theorem keygen_of_hybrid (declared : a.DeclaredLengths draw) {curve : Curve}
    (hybrid : a.curve = some curve) (sound : (classicalSource curve given draw).Sound)
    {scalar : Bytes} (holds : (classicalSource curve given draw).privateKey = some scalar)
    (drawn : a.drawKeyPair memory draw = .ok draw.keyPair)
    (publicRoom : memory.grants "composite public key"
      (Composite.length (classicalSource curve given draw).curve.publicKeyLength
        a.primitive.publicKeyLength) = true)
    (privateRoom : memory.grants "secret buffer"
      (Composite.length (classicalSource curve given draw).curve.privateKeyLength
        a.primitive.secretKeyLength) = true) :
    a.keygen memory given draw = .ok
      ⟨Composite.layout (classicalSource curve given draw).publicKey draw.keyPair.publicKey,
        ⟨Composite.layout scalar draw.keyPair.secretKey⟩,
        some (classicalSource curve given draw)⟩ := by
  refine (keygen_eq_ok_iff_of_hybrid hybrid).2
    ⟨draw.keyPair, scalar, drawn, holds, ?_, ?_, rfl⟩
  · have nameable := Curve.publicKeyLength_lt (classicalSource curve given draw).curve
    rw [← sound.isPublic.1] at nameable publicRoom
    rw [← declared.publicKey] at publicRoom
    exact Composite.joinPublic_eq_ok_iff.2 ⟨publicRoom, nameable, rfl⟩
  · have nameable := Curve.privateKeyLength_lt (classicalSource curve given draw).curve
    rw [← (sound.held scalar holds).1.1] at nameable privateRoom
    rw [← declared.secretKey] at privateRoom
    exact Composite.joinPrivate_eq_ok_iff.2 ⟨privateRoom, nameable, rfl⟩

/-- On the curve of the algorithm the keys have its lengths, so no other memory is asked for. -/
theorem keygen_of_own_curve (granted : a.GrantsKeygen memory) (declared : a.DeclaredLengths draw)
    {curve : Curve} (hybrid : a.curve = some curve)
    (sound : (classicalSource curve given draw).Sound)
    (onCurve : (classicalSource curve given draw).curve = curve) {scalar : Bytes}
    (holds : (classicalSource curve given draw).privateKey = some scalar) :
    a.keygen memory given draw = .ok
      ⟨Composite.layout (classicalSource curve given draw).publicKey draw.keyPair.publicKey,
        ⟨Composite.layout scalar draw.keyPair.secretKey⟩,
        some (classicalSource curve given draw)⟩ := by
  have hybridClass : a.curve.isSome = true := Option.isSome_of_eq_some hybrid
  have publicRoom := granted.compositePublic hybridClass
  have privateRoom := granted.compositePrivate hybridClass
  rw [publicKeyLength, hybrid] at publicRoom
  rw [privateKeyLength, hybrid] at privateRoom
  refine keygen_of_hybrid declared hybrid sound holds (drawKeyPair_of_granted granted declared) ?_ ?_
  · rw [onCurve]
    exact publicRoom
  · rw [onCurve]
    exact privateRoom

/-! ### Well-formed keys -/

/-- Both keys have the lengths of the algorithm and are read again.  The handles that the readings give
are there exactly for a hybrid algorithm; they have the public key of the generated handle, and that of
the private key has its scalar. -/
structure WellFormed (a : Algorithm) (made : GeneratedKey) : Prop where
  publicLength : made.publicKey.length = a.publicKeyLength
  privateLength : made.privateKey.length = a.privateKeyLength
  plain : a.curve = none →
    a.readPublic made.publicKey = .ok none ∧ a.readPrivate made.privateKey.bytes = .ok none ∧
      made.classical = none
  hybrid : ∀ curve, a.curve = some curve → ∃ classical publicHandle privateHandle : ClassicalKey,
    made.classical = some classical ∧ classical.hasPrivate = true ∧
      a.readPublic made.publicKey = .ok (some publicHandle) ∧
      a.readPrivate made.privateKey.bytes = .ok (some privateHandle) ∧
      publicHandle.publicKey = classical.publicKey ∧
      privateHandle.publicKey = classical.publicKey ∧
      privateHandle.privateKey = classical.privateKey

theorem Generates.wellFormed {made : GeneratedKey} (generates : a.Generates made) :
    a.WellFormed made where
  publicLength := generates.publicAccepted.length
  privateLength := generates.privateAccepted.length
  plain := by
    intro plain
    have publicRead := readPublic_eq_ok_iff.2 ⟨generates.publicAccepted, rfl⟩
    have privateRead := readPrivate_eq_ok_iff.2 ⟨generates.privateAccepted, rfl⟩
    rw [publicHandle, plain] at publicRead
    rw [privateHandle, plain] at privateRead
    exact ⟨publicRead, privateRead, by rw [generates.handle, privateHandle, plain, Option.map_none]⟩
  hybrid := by
    intro curve hybrid
    have publicRead := readPublic_eq_ok_iff.2 ⟨generates.publicAccepted, rfl⟩
    have privateRead := readPrivate_eq_ok_iff.2 ⟨generates.privateAccepted, rfl⟩
    have handle := generates.handle
    rw [publicHandle, hybrid] at publicRead
    rw [privateHandle, hybrid] at privateRead handle
    exact ⟨_, _, _, handle, rfl, publicRead, privateRead, generates.halvesBelong curve hybrid, rfl,
      rfl⟩

/-- A hybrid key from a sound handle is of the length of the algorithm only if the handle is on its
curve. -/
theorem curve_eq_of_publicLength {curve : Curve} {made : GeneratedKey} {key : ClassicalKey}
    (hybrid : a.curve = some curve) (sound : key.Sound)
    (done : a.keygen memory (some key) draw = .ok made)
    (whole : made.publicKey.length = a.publicKeyLength) : key.curve = curve := by
  obtain ⟨pair, scalar, drawn, -, joined, -, -⟩ := (keygen_eq_ok_iff_of_hybrid hybrid).1 done
  obtain ⟨-, -, publicLength, -, rfl⟩ := drawKeyPair_eq_ok_iff.1 drawn
  obtain ⟨-, -, publicKey⟩ := Composite.joinPublic_eq_ok_iff.1 joined
  have classicalLength : (classicalSource curve (some key) draw).publicKey.length =
      key.curve.publicKeyLength := sound.isPublic.1
  rw [publicKey, Composite.length_layout, classicalLength, publicLength,
    Algorithm.publicKeyLength, hybrid] at whole
  simp only [Composite.length] at whole
  apply Curve.eq_of_publicKeyLength_eq
  omega

/-- What a generation makes is well formed exactly when the classical key that it was given, if any, is on
the curve of the algorithm.  The generation succeeds on the other curve too. -/
theorem keygen_wellFormed_iff {made : GeneratedKey}
    (handles : ∀ key, given = some key → key.Made) (done : a.keygen memory given draw = .ok made) :
    a.WellFormed made ↔
      ∀ curve key, a.curve = some curve → given = some key → key.curve = curve := by
  cases hybrid : a.curve with
  | none =>
      have withoutSeed : a.SeedFits none := by simp [SeedFits]
      rw [keygen_eq_of_plain hybrid] at done
      refine ⟨?_, ?_⟩
      · rintro - _ _ ⟨⟩
      · intro _
        exact (generates_of_keygen withoutSeed done).wellFormed
  | some curve =>
      constructor
      · rintro wellFormed _ key ⟨⟩ rfl
        exact curve_eq_of_publicLength hybrid (handles key rfl).sound done wellFormed.publicLength
      · intro onCurve
        obtain ⟨-, scalar, -, holds, -⟩ := (keygen_eq_ok_iff_of_hybrid hybrid).1 done
        have seedFits : a.SeedFits given := by
          rintro key rfl
          have holds : key.privateKey = some scalar := holds
          refine ⟨?_, ?_, (handles key rfl).sound⟩
          · rw [hybrid, onCurve curve key rfl rfl]
          · rw [ClassicalKey.hasPrivate, holds, Option.isSome_some]
        exact (generates_of_keygen seedFits done).wellFormed

/-! ### A classical key of the other curve -/

/-- The same primitive paired with the other curve. -/
def p256Mlkem512 : Algorithm := ⟨"mlkem512", .ecpHybridKem, .mlkem512⟩

/-- A draw in which the library makes keys of zero bytes. -/
def zeroDraw : Draw := ⟨⟨List.replicate 800 0, List.replicate 1632 0⟩, fun _ => default⟩

theorem declaredLengths_zeroDraw (primitive : a.primitive = .mlkem512) :
    a.DeclaredLengths zeroDraw := by
  constructor
  · rw [primitive]
    exact List.length_replicate
  · rw [primitive]
    exact List.length_replicate

theorem x25519Mlkem512_grantsKeygen : x25519Mlkem512.GrantsKeygen .addressable :=
  ⟨rfl, rfl, fun _ => rfl, fun _ => rfl⟩

/-- A handle on X25519, read from a private key. -/
def x25519Handle : ClassicalKey := .ofScalar .x25519 (List.replicate 32 1)

theorem made_x25519Handle : x25519Handle.Made :=
  .ofPrivate (ClassicalKey.ofPrivate_eq_ok_iff.2 ⟨⟨List.length_replicate, rfl⟩, rfl⟩)

/-- What an algorithm with the primitive makes of the handle, on whichever curve it should be. -/
theorem keygen_x25519Handle {curve : Curve} (hybrid : a.curve = some curve)
    (primitive : a.primitive = .mlkem512) :
    a.keygen .addressable (some x25519Handle) zeroDraw = .ok
      ⟨Composite.layout x25519Handle.publicKey (List.replicate 800 0),
        ⟨Composite.layout (List.replicate 32 1) (List.replicate 1632 0)⟩, some x25519Handle⟩ := by
  have sound : (classicalSource curve (some x25519Handle) zeroDraw).Sound := made_x25519Handle.sound
  have declared := declaredLengths_zeroDraw primitive
  have drawn : a.drawKeyPair .addressable zeroDraw = .ok zeroDraw.keyPair := by
    refine drawKeyPair_eq_ok_iff.2 ⟨?_, ?_, declared.publicKey, declared.secretKey, rfl⟩
    · rw [primitive]
      rfl
    · rw [primitive]
      rfl
  refine keygen_of_hybrid declared hybrid sound rfl drawn ?_ ?_
  · rw [primitive]
    exact Memory.addressable_grants (by decide : Composite.length 32 800 < _)
  · rw [primitive]
    exact Memory.addressable_grants (by decide : Composite.length 32 1632 < _)

/-- On its own curve the handle makes a well-formed key. -/
theorem wellFormed_of_own_curve :
    ∃ made, x25519Handle.Made ∧
      x25519Mlkem512.keygen .addressable (some x25519Handle) zeroDraw = .ok made ∧
      x25519Mlkem512.WellFormed made := by
  have done := keygen_x25519Handle (a := x25519Mlkem512) rfl rfl
  have handles : ∀ key, some x25519Handle = some key → key.Made := by
    rintro _ ⟨⟩
    exact made_x25519Handle
  refine ⟨_, made_x25519Handle, done, (keygen_wellFormed_iff handles done).2 ?_⟩
  rintro _ _ ⟨⟩ ⟨⟩
  rfl

/-- For a registered algorithm on the other curve the generation succeeds as well, but its public key is
33 bytes short of the length of the algorithm, and is not read again. -/
theorem keygen_other_curve :
    Registry.resolve "mlkem512" .ecpHybridKem = .ok p256Mlkem512 ∧ x25519Handle.Made ∧
      ∃ made, p256Mlkem512.keygen .addressable (some x25519Handle) zeroDraw = .ok made ∧
        made.publicKey.length = 836 ∧ p256Mlkem512.publicKeyLength = 869 ∧
        p256Mlkem512.readPublic made.publicKey =
          .error (.mismatchedLength "public key" 869 836) ∧
        ¬ p256Mlkem512.WellFormed made := by
  have resolved := Registry.resolve_eq_ok_iff.2
    (show ⟨"mlkem512", p256Mlkem512.primitive⟩ ∈ Registry.entries ∧ _ from
      ⟨by decide, rfl, rfl, rfl⟩)
  have done := keygen_x25519Handle (a := p256Mlkem512) rfl rfl
  have short : (Composite.layout x25519Handle.publicKey (List.replicate 800 0)).length = 836 := by
    rw [Composite.length_layout, made_x25519Handle.sound.isPublic.1, List.length_replicate]
    rfl
  refine ⟨resolved, made_x25519Handle, _, done, short, rfl, ?_, ?_⟩
  · rw [readPublic, short]
    rfl
  · intro wellFormed
    have whole := wellFormed.publicLength
    rw [short] at whole
    cases whole

end Algorithm

end HybridKeys
