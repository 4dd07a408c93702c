/-
Module: HybridKeys.Proofs.EncodedKeys
Purpose: Which byte strings are encoded keys of an algorithm, the classical handle that each one
  carries, and that key generation makes nothing else.
Main exports: Composite.classicalPart, Composite.Announces, split_eq_ok_iff, Algorithm.AcceptsPublic,
  AcceptsPrivate, publicHandle, privateHandle, readPublic_eq_ok_iff, readPrivate_eq_ok_iff,
  Algorithm.HalvesBelong, Algorithm.SeedFits, Algorithm.Generates, generates_of_keygen
-/
import HybridKeys.Algorithm
import HybridKeys.Proofs.ClassicalKeys

namespace HybridKeys

/-! ### Composite keys -/

/-- The header of a composite key has room for the length of a public key of any curve. -/
theorem Curve.publicKeyLength_lt (curve : Curve) :
    curve.publicKeyLength < UInt32.size := by
  cases curve <;> decide

theorem Curve.privateKeyLength_lt (curve : Curve) :
    curve.privateKeyLength < UInt32.size := by
  cases curve <;> decide

namespace Composite

/-- The lengths that a word of 32 bits counts are those that the header has room for. -/
theorem size_eq_pow_headerLength : UInt32.size = 256 ^ headerLength := by
  decide

/-- The classical part of a composite key, from its length. -/
def classicalPart (classicalLength : ℕ) (bytes : Bytes) : Bytes :=
  (bytes.drop headerLength).take classicalLength

/-- The post-quantum part of a composite key, from the length of the classical one. -/
def pqPart (classicalLength : ℕ) (bytes : Bytes) : Bytes :=
  (bytes.drop headerLength).drop classicalLength

/-- The bytes have room for a classical part of the length, and their header names it. -/
def Announces (classicalLength : ℕ) (bytes : Bytes) : Prop :=
  headerLength + classicalLength ≤ bytes.length ∧
    Bytes.toNat (bytes.take headerLength) = classicalLength

/-- As long as it does not wrap around, the bound of a split is where the classical part ends. -/
theorem toNat_wordLength_zero {classicalLength : UInt64}
    (fits : headerLength + classicalLength.toNat < UInt64.size) :
    (wordLength classicalLength 0).toNat = headerLength + classicalLength.toNat :=
  toNat_wordLength (by simpa [length] using fits)

/-- As long as the bound does not wrap around, a split succeeds on what announces the length. -/
theorem split_eq_ok_iff {bytes : Bytes} {classicalLength : UInt64} {parts : Bytes × Bytes}
    (fits : headerLength + classicalLength.toNat < UInt64.size) :
    split bytes classicalLength = .ok parts ↔
      Announces classicalLength.toNat bytes ∧
        parts = (classicalPart classicalLength.toNat bytes, pqPart classicalLength.toNat bytes) := by
  rw [split_eq, toNat_wordLength_zero fits, Announces, classicalPart, pqPart]
  by_cases short : bytes.length < headerLength + classicalLength.toNat
  · simp [short, Nat.not_le.2 short]
  · by_cases named : Bytes.toNat (bytes.take headerLength) = classicalLength.toNat
    · simp [short, named, Nat.not_lt.1 short, eq_comm]
    · simp [short, named]

/-- A length that the header can name is far from wrapping around. -/
theorem toNat_ofNat_of_lt {classicalLength : ℕ} (small : classicalLength < UInt32.size) :
    (UInt64.ofNat classicalLength).toNat = classicalLength := by
  rw [UInt64.toNat_ofNat', Nat.mod_eq_of_lt (small.trans (by decide))]

theorem headerLength_add_ofNat_lt {classicalLength : ℕ} (small : classicalLength < UInt32.size) :
    headerLength + (UInt64.ofNat classicalLength).toNat < UInt64.size := by
  rw [toNat_ofNat_of_lt small]
  exact (Nat.add_lt_add_left small headerLength).trans (by decide)

theorem split_ofNat_eq_ok_iff {bytes : Bytes} {classicalLength : ℕ} {parts : Bytes × Bytes}
    (small : classicalLength < UInt32.size) :
    split bytes (UInt64.ofNat classicalLength) = .ok parts ↔
      Announces classicalLength bytes ∧
        parts = (classicalPart classicalLength bytes, pqPart classicalLength bytes) := by
  rw [split_eq_ok_iff (headerLength_add_ofNat_lt small), toNat_ofNat_of_lt small]

section Layout

variable {classical : Bytes} {classicalLength : ℕ} (same : classical.length = classicalLength)
include same

theorem classicalPart_layout (pq : Bytes) :
    classicalPart classicalLength (layout classical pq) = classical := by
  subst same
  simp [classicalPart, layout, List.append_assoc]

theorem pqPart_layout (pq : Bytes) : pqPart classicalLength (layout classical pq) = pq := by
  subst same
  simp [pqPart, layout, List.append_assoc]

/-- The layout of two parts announces the length of the first, if the header has room for it. -/
theorem announces_layout (pq : Bytes) (small : classicalLength < UInt32.size) :
    Announces classicalLength (layout classical pq) := by
  subst same
  constructor
  · simp [length]
  · simp [layout, List.append_assoc, Bytes.toNat_ofNat (size_eq_pow_headerLength ▸ small)]

end Layout

/-- Writing over a buffer succeeds when the buffer and the header fit, and leaves the layout. -/
theorem exec_writeOver_eq_ok_iff {classical pq buffer out : Bytes} :
    (writeOver classical pq).exec buffer = .ok out ↔
      buffer.length = length classical.length pq.length ∧
        classical.length < UInt32.size ∧ out = layout classical pq := by
  rw [Action.exec, run_writeOver]
  by_cases whole : buffer.length = length classical.length pq.length
  · by_cases small : classical.length < UInt32.size
    · simp [whole, small, Except.map, eq_comm]
    · simp [whole, small, Except.map]
  · simp [whole, Except.map]

theorem joinPublic_eq_ok_iff {memory : Memory} {classical pq out : Bytes} :
    joinPublic memory classical pq = .ok out ↔
      memory.grants "composite public key" (length classical.length pq.length) = true ∧
        classical.length < UInt32.size ∧ out = layout classical pq := by
  rw [joinPublic, Check.bind_eq_ok_iff]
  simp only [Check.allocate_eq_ok_iff, exec_writeOver_eq_ok_iff]
  constructor
  · intro succeeded
    rcases succeeded with ⟨_, ⟨granted, rfl⟩, -, small, written⟩
    exact ⟨granted, small, written⟩
  · intro conditions
    rcases conditions with ⟨granted, small, written⟩
    exact ⟨_, ⟨granted, rfl⟩, List.length_replicate, small, written⟩

/-- A private key is joined as a public one is, into a secret buffer. -/
theorem joinPrivate_eq_ok_iff {memory : Memory} {classical pq : Bytes} {out : Secret} :
    joinPrivate memory classical pq = .ok out ↔
      memory.grants "secret buffer" (length classical.length pq.length) = true ∧
        classical.length < UInt32.size ∧ out = ⟨layout classical pq⟩ := by
  rw [joinPrivate, Check.bind_eq_ok_iff]
  simp only [Secret.zeroed_eq, Check.granted_eq_ok_iff, Check.bind_eq_ok_iff,
    exec_writeOver_eq_ok_iff]
  constructor
  · intro succeeded
    rcases succeeded with ⟨_, ⟨granted, rfl⟩, _, ⟨-, small, rfl⟩, made⟩
    exact ⟨granted, small, (Except.ok.inj made).symm⟩
  · intro conditions
    rcases conditions with ⟨granted, small, rfl⟩
    exact ⟨_, ⟨granted, rfl⟩, _, ⟨List.length_replicate, small, rfl⟩, rfl⟩

end Composite

/-! ### Post-quantum key pairs -/

/-- The library's keys reach the buffers when all lengths are the declared ones. -/
theorem Primitive.exec_fillBuffers_eq_ok_iff {τ : Type} {p : Primitive} {library : τ → KeyPair × τ}
    {buffers : KeyPair} {random : τ} {after : KeyPair × τ} :
    (p.fillBuffers library).exec (buffers, random) = .ok after ↔
      buffers.publicKey.length = p.publicKeyLength ∧ buffers.secretKey.length = p.secretKeyLength ∧
        (library random).1.publicKey.length = p.publicKeyLength ∧
        (library random).1.secretKey.length = p.secretKeyLength ∧ after = library random := by
  rw [Action.exec, run_fillBuffers]
  split_ifs with publicBuffer secretBuffer made
  · simp [Except.map, publicBuffer]
  · simp [Except.map, secretBuffer]
  · simp_all [Except.map, eq_comm]
  · simp_all [Except.map]

namespace Algorithm

variable {a : Algorithm}

/-- A draw makes a key pair when the library's keys have their declared lengths and there is memory for
them. -/
theorem drawKeyPair_eq_ok_iff {memory : Memory} {draw : Draw} {pair : KeyPair} :
    a.drawKeyPair memory draw = .ok pair ↔
      memory.grants "public key" a.primitive.publicKeyLength = true ∧
        memory.grants "secret buffer" a.primitive.secretKeyLength = true ∧
        draw.keyPair.publicKey.length = a.primitive.publicKeyLength ∧
        draw.keyPair.secretKey.length = a.primitive.secretKeyLength ∧ pair = draw.keyPair := by
  rw [drawKeyPair]
  simp only [Check.bind_eq_ok_iff, Check.allocate_eq_ok_iff, Secret.zeroed_eq,
    Check.granted_eq_ok_iff, Primitive.exec_fillBuffers_eq_ok_iff]
  constructor
  · intro succeeded
    rcases succeeded with ⟨_, ⟨publicRoom, rfl⟩, _, ⟨secretRoom, rfl⟩, _,
      ⟨-, -, publicMade, secretMade, rfl⟩, made⟩
    exact ⟨publicRoom, secretRoom, publicMade, secretMade, (Except.ok.inj made).symm⟩
  · intro conditions
    rcases conditions with ⟨publicRoom, secretRoom, publicMade, secretMade, rfl⟩
    exact ⟨_, ⟨publicRoom, rfl⟩, _, ⟨secretRoom, rfl⟩, _, ⟨List.length_replicate,
      List.length_replicate, publicMade, secretMade, rfl⟩, rfl⟩

/-! ### Encoded keys -/

/-- The bytes are an encoded public key of the algorithm. -/
structure AcceptsPublic (a : Algorithm) (bytes : Bytes) : Prop where
  length : bytes.length = a.publicKeyLength
  hybrid : ∀ curve, a.curve = some curve →
    Composite.Announces curve.publicKeyLength bytes ∧
      curve.IsPublic (Composite.classicalPart curve.publicKeyLength bytes)

/-- The bytes are an encoded private key of the algorithm. -/
structure AcceptsPrivate (a : Algorithm) (bytes : Bytes) : Prop where
  length : bytes.length = a.privateKeyLength
  hybrid : ∀ curve, a.curve = some curve →
    Composite.Announces curve.privateKeyLength bytes ∧
      curve.IsPrivate (Composite.classicalPart curve.privateKeyLength bytes)

/-- The handle of the classical part of an encoded public key. -/
def publicHandle (a : Algorithm) (bytes : Bytes) : Option ClassicalKey :=
  a.curve.map fun curve =>
    ⟨curve, Composite.classicalPart curve.publicKeyLength bytes, none⟩

/-- The handle of the classical part of an encoded private key. -/
def privateHandle (a : Algorithm) (bytes : Bytes) : Option ClassicalKey :=
  a.curve.map fun curve =>
    ClassicalKey.ofScalar curve (Composite.classicalPart curve.privateKeyLength bytes)

/-- What reading a public and reading a private key have in common: the length of the whole is checked, and
for a hybrid algorithm the classical part is split off and read. -/
def readParted (a : Algorithm) (context : String) (total : ℕ) (partLength : Curve → ℕ)
    (readPart : Curve → Bytes → Except Error ClassicalKey) (bytes : Bytes) :
    Except Error (Option ClassicalKey) := do
  Check.length context bytes.length total
  match a.curve with
  | some curve =>
    let (classical, _) ← Composite.split bytes (UInt64.ofNat (partLength curve))
    return some (← readPart curve classical)
  | none => return none

theorem readPublic_eq_readParted (bytes : Bytes) :
    a.readPublic bytes = a.readParted "public key" a.publicKeyLength Curve.publicKeyLength
      ClassicalKey.ofPublic bytes :=
  rfl

theorem readPrivate_eq_readParted (bytes : Bytes) :
    a.readPrivate bytes = a.readParted "private key" a.privateKeyLength Curve.privateKeyLength
      ClassicalKey.ofPrivate bytes :=
  rfl

/-- If the classical parts that are read are the valid ones, and each gives its handle, then so it is with
the whole keys. -/
theorem readParted_eq_ok_iff {context : String} {total : ℕ} {partLength : Curve → ℕ}
    {readPart : Curve → Bytes → Except Error ClassicalKey} {valid : Curve → Bytes → Prop}
    {image : Curve → Bytes → ClassicalKey}
    (small : ∀ curve, partLength curve < UInt32.size)
    (spec : ∀ {curve part key}, readPart curve part = .ok key ↔
      valid curve part ∧ key = image curve part) {bytes : Bytes} {handle : Option ClassicalKey} :
    a.readParted context total partLength readPart bytes = .ok handle ↔
      (bytes.length = total ∧ ∀ curve, a.curve = some curve →
        Composite.Announces (partLength curve) bytes ∧
          valid curve (Composite.classicalPart (partLength curve) bytes)) ∧
      handle = a.curve.map fun curve =>
        image curve (Composite.classicalPart (partLength curve) bytes) := by
  rw [readParted, Check.bind_eq_ok_iff]
  cases hybrid : a.curve with
  | none =>
      constructor
      · intro succeeded
        rcases succeeded with ⟨_, length, ⟨⟩⟩
        exact ⟨⟨Check.length_eq_ok_iff.1 length, by simp⟩, rfl⟩
      · intro conditions
        rcases conditions with ⟨⟨length, -⟩, rfl⟩
        exact ⟨(), Check.length_eq_ok_iff.2 length, rfl⟩
  | some curve =>
      simp only [Check.length_eq_ok_iff, Check.bind_eq_ok_iff,
        Composite.split_ofNat_eq_ok_iff (small curve), spec]
      constructor
      · intro succeeded
        rcases succeeded with ⟨_, length, _, ⟨announces, rfl⟩, _, ⟨isValid, rfl⟩, ⟨⟩⟩
        refine ⟨⟨length, ?_⟩, rfl⟩
        rintro _ ⟨⟩
        exact ⟨announces, isValid⟩
      · intro conditions
        rcases conditions with ⟨⟨length, parts⟩, rfl⟩
        obtain ⟨announces, isValid⟩ := parts curve rfl
        exact ⟨(), length, _, ⟨announces, rfl⟩, _, ⟨isValid, rfl⟩, rfl⟩

/-- An encoded public key is read exactly when it is one, and gives its handle. -/
theorem readPublic_eq_ok_iff {bytes : Bytes} {handle : Option ClassicalKey} :
    a.readPublic bytes = .ok handle ↔ a.AcceptsPublic bytes ∧ handle = a.publicHandle bytes := by
  rw [readPublic_eq_readParted,
    readParted_eq_ok_iff Curve.publicKeyLength_lt ClassicalKey.ofPublic_eq_ok_iff]
  refine and_congr_left fun _ => ⟨?_, ?_⟩
  · intro conditions
    exact ⟨conditions.1, conditions.2⟩
  · intro accepts
    exact ⟨accepts.length, accepts.hybrid⟩

/-- An encoded private key is read exactly when it is one, and gives its handle. -/
theorem readPrivate_eq_ok_iff {bytes : Bytes} {handle : Option ClassicalKey} :
    a.readPrivate bytes = .ok handle ↔ a.AcceptsPrivate bytes ∧ handle = a.privateHandle bytes := by
  rw [readPrivate_eq_readParted,
    readParted_eq_ok_iff Curve.privateKeyLength_lt ClassicalKey.ofPrivate_eq_ok_iff]
  refine and_congr_left fun _ => ⟨?_, ?_⟩
  · intro conditions
    exact ⟨conditions.1, conditions.2⟩
  · intro accepts
    exact ⟨accepts.length, accepts.hybrid⟩

/-- A public key of the curve, laid out before a post-quantum one, is an encoded public key. -/
theorem acceptsPublic_layout {curve : Curve} {classical pq : Bytes} (hybrid : a.curve = some curve)
    (isPublic : curve.IsPublic classical) (pqLength : pq.length = a.primitive.publicKeyLength) :
    a.AcceptsPublic (Composite.layout classical pq) where
  length := by simp [publicKeyLength, hybrid, isPublic.1, pqLength]
  hybrid := by
    intro _ same
    cases hybrid.symm.trans same
    rw [Composite.classicalPart_layout isPublic.1]
    exact ⟨Composite.announces_layout isPublic.1 pq curve.publicKeyLength_lt, isPublic⟩

/-- A private key of the curve, laid out before a post-quantum one, is an encoded private key. -/
theorem acceptsPrivate_layout {curve : Curve} {classical pq : Bytes} (hybrid : a.curve = some curve)
    (isPrivate : curve.IsPrivate classical) (pqLength : pq.length = a.primitive.secretKeyLength) :
    a.AcceptsPrivate (Composite.layout classical pq) where
  length := by simp [privateKeyLength, hybrid, isPrivate.1, pqLength]
  hybrid := by
    intro _ same
    cases hybrid.symm.trans same
    rw [Composite.classicalPart_layout isPrivate.1]
    exact ⟨Composite.announces_layout isPrivate.1 pq curve.privateKeyLength_lt, isPrivate⟩

/-- The classical halves of a public and a private key of a hybrid algorithm are one key pair. -/
def HalvesBelong (a : Algorithm) (publicKey privateKey : Bytes) : Prop :=
  ∀ curve, a.curve = some curve →
    Composite.classicalPart curve.publicKeyLength publicKey =
      curve.derive (Composite.classicalPart curve.privateKeyLength privateKey)

/-! ### Key generation -/

/-- The classical key that a generation takes: the given one, or else a fresh one. -/
def classicalSource (curve : Curve) (given : Option ClassicalKey) (draw : Draw) : ClassicalKey :=
  given.getD (ClassicalKey.generate curve (draw.scalar curve))

theorem keygen_eq_ok_iff_of_plain {memory : Memory} {given : Option ClassicalKey} {draw : Draw}
    {made : GeneratedKey} (plain : a.curve = none) :
    a.keygen memory given draw = .ok made ↔
      ∃ pair, a.drawKeyPair memory draw = .ok pair ∧ made = ⟨pair.publicKey, ⟨pair.secretKey⟩, none⟩ := by
  rw [keygen, Check.bind_eq_ok_iff]
  simp only [plain]
  constructor
  · intro succeeded
    rcases succeeded with ⟨pair, drawn, ⟨⟩⟩
    exact ⟨pair, drawn, rfl⟩
  · intro conditions
    rcases conditions with ⟨pair, drawn, rfl⟩
    exact ⟨pair, drawn, rfl⟩

theorem keygen_eq_ok_iff_of_hybrid {memory : Memory} {given : Option ClassicalKey} {draw : Draw}
    {made : GeneratedKey} {curve : Curve} (hybrid : a.curve = some curve) :
    a.keygen memory given draw = .ok made ↔
      ∃ pair scalar, a.drawKeyPair memory draw = .ok pair ∧
        (classicalSource curve given draw).privateKey = some scalar ∧
        Composite.joinPublic memory (classicalSource curve given draw).publicKey pair.publicKey =
          .ok made.publicKey ∧
        Composite.joinPrivate memory scalar pair.secretKey = .ok made.privateKey ∧
        made.classical = some (classicalSource curve given draw) := by
  rw [keygen, Check.bind_eq_ok_iff]
  simp only [hybrid, classicalSource]
  generalize given.getD (ClassicalKey.generate curve (draw.scalar curve)) = classical
  cases holds : classical.privateKey with
  | none => simp [throw, throwThe, MonadExceptOf.throw]
  | some scalar =>
      simp only [Check.bind_eq_ok_iff]
      constructor
      · intro succeeded
        rcases succeeded with ⟨pair, drawn, publicKey, publicJoined, privateKey, privateJoined, ⟨⟩⟩
        exact ⟨pair, scalar, drawn, rfl, publicJoined, privateJoined, rfl⟩
      · intro conditions
        rcases conditions with ⟨pair, _, drawn, ⟨⟩, publicJoined, privateJoined, classical⟩
        refine ⟨pair, drawn, _, publicJoined, _, privateJoined, ?_⟩
        cases made
        simp_all [pure, Except.pure]

/-- A seed, where there is one, is a sound handle on the curve of the algorithm that holds its private
key. -/
def SeedFits (a : Algorithm) (seed : Option ClassicalKey) : Prop :=
  ∀ key, seed = some key → a.curve = some key.curve ∧ key.hasPrivate = true ∧ key.Sound

theorem seedFits_none : a.SeedFits none := by
  simp [SeedFits]

/-- Whether it was given or drawn, the classical key of a generation is sound and on the curve. -/
theorem sound_classicalSource {curve : Curve} {seed : Option ClassicalKey}
    (hybrid : a.curve = some curve) (fits : a.SeedFits seed) (draw : Draw) :
    (classicalSource curve seed draw).Sound ∧ (classicalSource curve seed draw).curve = curve := by
  cases given : seed with
  | none => exact ⟨.ofScalar (draw.scalar curve).property, rfl⟩
  | some key =>
      obtain ⟨same, -, sound⟩ := fits key given
      exact ⟨sound, Option.some.inj (same.symm.trans hybrid)⟩

/-- What a key generation makes is well formed: both keys are accepted, their classical halves belong
together, and the handle is the one of the private key. -/
structure Generates (a : Algorithm) (made : GeneratedKey) : Prop where
  publicAccepted : a.AcceptsPublic made.publicKey
  privateAccepted : a.AcceptsPrivate made.privateKey.bytes
  halvesBelong : a.HalvesBelong made.publicKey made.privateKey.bytes
  handle : made.classical = a.privateHandle made.privateKey.bytes

theorem generates_of_keygen {memory : Memory} {seed : Option ClassicalKey} {draw : Draw}
    {made : GeneratedKey} (fits : a.SeedFits seed) (generated : a.keygen memory seed draw = .ok made) :
    a.Generates made := by
  cases hybrid : a.curve with
  | none =>
      obtain ⟨pair, drawn, rfl⟩ := (keygen_eq_ok_iff_of_plain hybrid).1 generated
      obtain ⟨-, -, publicLength, secretLength, rfl⟩ := drawKeyPair_eq_ok_iff.1 drawn
      exact
        { publicAccepted := ⟨by simp [publicKeyLength, hybrid, publicLength], by simp [hybrid]⟩
          privateAccepted := ⟨by simp [privateKeyLength, hybrid, secretLength], by simp [hybrid]⟩
          halvesBelong := by simp [HalvesBelong, hybrid]
          handle := by simp [privateHandle, hybrid] }
  | some curve =>
      obtain ⟨pair, scalar, drawn, holds, publicJoined, privateJoined, handle⟩ :=
        (keygen_eq_ok_iff_of_hybrid hybrid).1 generated
      obtain ⟨-, -, publicLength, secretLength, rfl⟩ := drawKeyPair_eq_ok_iff.1 drawn
      obtain ⟨-, -, publicKey⟩ := Composite.joinPublic_eq_ok_iff.1 publicJoined
      obtain ⟨-, -, privateKey⟩ := Composite.joinPrivate_eq_ok_iff.1 privateJoined
      have source := sound_classicalSource hybrid fits draw
      generalize classicalSource curve seed draw = classical at *
      obtain ⟨sound, rfl⟩ := source
      obtain ⟨isPrivate, derived⟩ := sound.held scalar holds
      have privateBytes := congrArg Secret.bytes privateKey
      refine ⟨?_, ?_, ?_, ?_⟩
      · rw [publicKey]
        exact acceptsPublic_layout hybrid sound.isPublic publicLength
      · rw [privateBytes]
        exact acceptsPrivate_layout hybrid isPrivate secretLength
      · intro _ same
        cases hybrid.symm.trans same
        rw [publicKey, privateBytes, Composite.classicalPart_layout sound.isPublic.1,
          Composite.classicalPart_layout isPrivate.1, derived]
      · rw [handle, privateBytes, privateHandle, hybrid, Option.map_some,
          Composite.classicalPart_layout isPrivate.1, ← sound.eq_ofScalar holds]

end Algorithm

end HybridKeys
