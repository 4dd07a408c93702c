/-
Module: HybridKeys.Proofs.KeyConsistency
Purpose: The parts of a reachable key are valid, and its classical handle is the one that follows from
  them.
Main exports: Algorithm.handle, Parts.Sound, Parts.Supplied, Parts.checked, Parts.Granted,
  Parts.read_eq_ok_iff, Key.Sound, Sound.effect, Reachable.sound, Key.Consistent,
  Reachable.consistent
-/
import HybridKeys.Proofs.KeyHistories

namespace HybridKeys

/-- A check that accepts some values, and answers each with its image, is made of an optional value by
accepting what is there. -/
theorem Check.mapM_eq_ok_iff {α β : Type} {check : α → Except Error β} {accepts : α → Prop}
    {image : α → β} (spec : ∀ {value answer}, check value = .ok answer ↔
      accepts value ∧ answer = image value) {value : Option α} {answer : Option β} :
    value.mapM check = .ok answer ↔
      (∀ found, value = some found → accepts found) ∧ answer = value.map image := by
  cases value with
  | none => simp [pure, Except.pure, eq_comm]
  | some found =>
      rw [Option.mapM_some, map_eq_ok_iff]
      constructor
      · intro succeeded
        rcases succeeded with ⟨_, checked, rfl⟩
        obtain ⟨accepted, rfl⟩ := spec.1 checked
        refine ⟨?_, rfl⟩
        rintro _ ⟨⟩
        exact accepted
      · intro conditions
        rcases conditions with ⟨accepted, rfl⟩
        exact ⟨image found, spec.2 ⟨accepted found rfl, rfl⟩, rfl⟩

namespace Algorithm

variable {a : Algorithm}

/-- The classical handle that goes with the parts of a key: that of the private part where there is one,
and else that of the public part. -/
def handle (a : Algorithm) : Option Bytes → Option Secret → Option ClassicalKey
  | _, some secret => a.privateHandle secret.bytes
  | some bytes, none => a.publicHandle bytes
  | none, none => none

theorem isHybrid_iff : a.keyClass.isHybrid = true ↔ ∃ curve, a.curve = some curve := by
  rw [← KeyClass.isSome_curve, Option.isSome_iff_exists, curve]

theorem isSome_handle_iff {publicKey : Option Bytes} {privateKey : Option Secret} :
    (a.handle publicKey privateKey).isSome ↔
      a.keyClass.isHybrid ∧ (publicKey.isSome ∨ privateKey.isSome) := by
  rw [isHybrid_iff]
  cases publicKey <;> cases privateKey <;> cases hybrid : a.curve <;>
    simp [handle, publicHandle, privateHandle, hybrid]

/-- The handle of a public part has no scalar, and that of a private part has it. -/
theorem hasPrivate_handle_iff {publicKey : Option Bytes} {privateKey : Option Secret} :
    (∃ key, a.handle publicKey privateKey = some key ∧ key.hasPrivate) ↔
      a.keyClass.isHybrid ∧ privateKey.isSome := by
  rw [isHybrid_iff]
  cases publicKey <;> cases privateKey <;> cases hybrid : a.curve <;>
    simp [handle, publicHandle, privateHandle, hybrid, ClassicalKey.hasPrivate,
      ClassicalKey.ofScalar]

end Algorithm

namespace Key

variable {a : Algorithm}

/-! ### Parts -/

namespace Parts

/-- Valid parts, with the handle that goes with them. -/
structure Sound (a : Algorithm) (parts : Parts) : Prop where
  publicAccepted : ∀ bytes, parts.publicKey = some bytes → a.AcceptsPublic bytes
  privateAccepted : ∀ secret, parts.privateKey = some secret → a.AcceptsPrivate secret.bytes
  handle : parts.classical = a.handle parts.publicKey parts.privateKey

theorem Sound.empty : Sound a ⟨none, none, none⟩ where
  publicAccepted := by simp
  privateAccepted := by simp
  handle := rfl

theorem Sound.ofGenerated {made : GeneratedKey} (generates : a.Generates made) :
    Sound a ⟨some made.publicKey, some made.privateKey, made.classical⟩ where
  publicAccepted := by
    rintro _ ⟨⟩
    exact generates.publicAccepted
  privateAccepted := by
    rintro _ ⟨⟩
    exact generates.privateAccepted
  handle := generates.handle

theorem Sound.ofPublic {bytes : Bytes} {classical : Option ClassicalKey}
    (read : a.readPublic bytes = .ok classical) : Sound a ⟨some bytes, none, classical⟩ where
  publicAccepted := by
    rintro _ ⟨⟩
    exact (Algorithm.readPublic_eq_ok_iff.1 read).1
  privateAccepted := by simp
  handle := (Algorithm.readPublic_eq_ok_iff.1 read).2

/-- The octet string that is taken out of a set, if it is selected. -/
def taken (selected : Bool) (set : ParameterSet) (name : String) : Except Error (Option Bytes) :=
  if selected then set.readOctets name else .ok none

/-- The parts are what the selection takes out of the set, and there is at least one. -/
structure Supplied (selection : Selection) (set : ParameterSet) (parts : Parts) : Prop where
  publicPart : taken selection.publicKey set ParameterName.publicKey = .ok parts.publicKey
  privatePart : taken selection.privateKey set ParameterName.privateKey =
    .ok (parts.privateKey.map Secret.bytes)
  some : parts.publicKey.isSome ∨ parts.privateKey.isSome

/-- What is taken although it is not selected is nothing. -/
theorem selected_of_taken {selected : Bool} {set : ParameterSet} {name : String}
    {part : Option Bytes} (found : taken selected set name = .ok part) (some : part.isSome) :
    selected = true := by
  cases selected with
  | true => rfl
  | false =>
      cases found
      cases some

/-- What a reading comes to before it copies anything: it takes both strings out of the set and then checks
each of them. -/
def checked (a : Algorithm) (selection : Selection) (set : ParameterSet) : Except Error Parts := do
  Check.that selection.namesKeyPart "import" "selection names no key part"
  let publicKey ← taken selection.publicKey set ParameterName.publicKey
  let privateKey ← taken selection.privateKey set ParameterName.privateKey
  Check.that (publicKey.isSome || privateKey.isSome) "import" "no pub or priv parameter supplied"
  let publicClassical ← publicKey.mapM a.readPublic
  let privateClassical ← privateKey.mapM a.readPrivate
  return ⟨publicKey, privateKey.map Secret.mk, privateClassical.join <|> publicClassical.join⟩

/-- New copies of parts. -/
def copied (memory : Memory) (parts : Parts) : Except Error Parts := do
  let publicKey ← Check.copyGiven memory ParameterName.publicKey parts.publicKey
  let privateKey ← Secret.copyGiven memory (parts.privateKey.map Secret.bytes)
  return { parts with
    publicKey := publicKey
    privateKey := privateKey }

/-- There is memory for a copy of each part. -/
structure Granted (memory : Memory) (parts : Parts) : Prop where
  publicPart : memory.grantsBytes ParameterName.publicKey parts.publicKey = true
  privatePart : memory.grantsBytes "secret buffer" (parts.privateKey.map Secret.bytes) = true

/-- Valid parts are copied if there is memory for what has their lengths. -/
theorem Sound.granted {memory : Memory} {parts : Parts} (sound : Sound a parts)
    (publicRoom : memory.grants ParameterName.publicKey a.publicKeyLength = true)
    (privateRoom : memory.grants "secret buffer" a.privateKeyLength = true) :
    parts.Granted memory where
  publicPart := by
    cases held : parts.publicKey with
    | none => rfl
    | some bytes => rwa [Memory.grantsBytes_some, (sound.publicAccepted bytes held).length]
  privatePart := by
    cases held : parts.privateKey with
    | none => rfl
    | some secret =>
        rwa [Option.map_some, Memory.grantsBytes_some, (sound.privateAccepted secret held).length]

/-- A reading checks everything before it copies anything. -/
theorem read_eq (memory : Memory) (a : Algorithm) (selection : Selection) (set : ParameterSet) :
    read memory a selection set = checked a selection set >>= copied memory := by
  have bytes (privateKey : Option Bytes) :
      (privateKey.map Secret.mk).map Secret.bytes = privateKey := by
    cases privateKey <;> rfl
  unfold read checked copied taken
  simp only [bind_assoc, pure_bind, bytes]
  cases selection.publicKey <;> cases selection.privateKey <;> rfl

/-- The public part is copied first. -/
theorem copied_eq (memory : Memory) (parts : Parts) :
    copied memory parts =
      if memory.grantsBytes ParameterName.publicKey parts.publicKey then
        if memory.grantsBytes "secret buffer" (parts.privateKey.map Secret.bytes) then .ok parts
        else .error (.allocationFailure "secret buffer")
      else .error (.allocationFailure ParameterName.publicKey) := by
  have remade : (parts.privateKey.map Secret.bytes).map Secret.mk = parts.privateKey := by
    cases parts.privateKey <;> rfl
  rw [copied, Check.copyGiven_eq, Secret.copyGiven_eq, remade]
  split
  · split <;> rfl
  · rfl

theorem copied_eq_ok_iff {memory : Memory} {parts made : Parts} :
    copied memory parts = .ok made ↔ parts.Granted memory ∧ made = parts := by
  rw [copied_eq]
  split
  case isTrue publicPart =>
      rw [Check.granted_eq_ok_iff]
      exact and_congr_left fun _ => ⟨fun privatePart => ⟨publicPart, privatePart⟩, (·.privatePart)⟩
  case isFalse refused =>
      refine ⟨?_, ?_⟩
      · rintro ⟨⟩
      · rintro ⟨granted, -⟩
        exact absurd granted.publicPart refused

/-- Of the handles of two parts the private one is taken; only a class without a curve has none. -/
theorem handle_eq_orElse (publicKey : Option Bytes) (privateKey : Option Bytes) :
    a.handle publicKey (privateKey.map Secret.mk) =
      ((privateKey.map a.privateHandle).join <|> (publicKey.map a.publicHandle).join) := by
  cases hybrid : a.curve with
  | none =>
      cases publicKey <;> cases privateKey <;>
        simp [Algorithm.handle, Algorithm.publicHandle, Algorithm.privateHandle, hybrid]
  | some curve =>
      cases publicKey <;> cases privateKey <;>
        simp [Algorithm.handle, Algorithm.publicHandle, Algorithm.privateHandle, hybrid]

/-- Parts pass the checks exactly when they are supplied and valid. -/
theorem checked_eq_ok_iff {selection : Selection} {set : ParameterSet} {parts : Parts} :
    checked a selection set = .ok parts ↔ Supplied selection set parts ∧ Sound a parts := by
  simp only [checked, Check.bind_eq_ok_iff, Check.that_eq_ok_iff,
    Check.mapM_eq_ok_iff Algorithm.readPublic_eq_ok_iff,
    Check.mapM_eq_ok_iff Algorithm.readPrivate_eq_ok_iff]
  constructor
  · intro succeeded
    rcases succeeded with ⟨_, -, publicKey, publicPart, privateKey, privatePart, _, some, _,
      ⟨publicAccepted, rfl⟩, _, ⟨privateAccepted, rfl⟩, ⟨⟩⟩
    refine ⟨⟨publicPart, ?_, ?_⟩, publicAccepted, ?_, (handle_eq_orElse publicKey privateKey).symm⟩
    · simpa [Function.comp_def] using privatePart
    · simpa using some
    · intro secret held
      obtain ⟨bytes, found, rfl⟩ := Option.map_eq_some_iff.1 held
      exact privateAccepted bytes found
  · intro conditions
    rcases conditions with ⟨supplied, sound⟩
    obtain ⟨publicKey, privateKey, classical⟩ := parts
    have named : selection.namesKeyPart = true := by
      rw [Selection.namesKeyPart_eq, Bool.or_eq_true]
      rcases supplied.some with present | present
      · exact .inr (selected_of_taken supplied.publicPart present)
      · exact .inl (selected_of_taken supplied.privatePart (by simpa using present))
    refine ⟨(), named, publicKey, supplied.publicPart, privateKey.map Secret.bytes,
      supplied.privatePart, (), ?_, _, ⟨sound.publicAccepted, rfl⟩, _, ⟨?_, rfl⟩, ?_⟩
    · simpa using supplied.some
    · intro bytes found
      obtain ⟨secret, held, rfl⟩ := Option.map_eq_some_iff.1 found
      exact sound.privateAccepted secret held
    · have remade : (privateKey.map Secret.bytes).map Secret.mk = privateKey := by
        cases privateKey <;> rfl
      have handle : classical = a.handle publicKey privateKey := sound.handle
      rw [← handle_eq_orElse, remade, ← handle]
      rfl

/-- Parts are read exactly when they are supplied and valid, and there is memory for them. -/
theorem read_eq_ok_iff {memory : Memory} {selection : Selection} {set : ParameterSet}
    {parts : Parts} :
    read memory a selection set = .ok parts ↔
      Supplied selection set parts ∧ Sound a parts ∧ parts.Granted memory := by
  rw [read_eq, Check.bind_eq_ok_iff, ← and_assoc, ← checked_eq_ok_iff]
  simp only [copied_eq_ok_iff]
  constructor
  · intro succeeded
    rcases succeeded with ⟨_, found, granted, rfl⟩
    exact ⟨found, granted⟩
  · intro conditions
    exact ⟨parts, conditions.1, conditions.2, rfl⟩

end Parts

/-! ### The invariant -/

/-- The parts that a key holds. -/
def parts (key : Key) : Parts :=
  ⟨key.publicKey, key.privateKey, key.classical⟩

/-- The invariant of keys.  That the seed fits is part of it, because the next generation builds on
it. -/
structure Sound (key : Key) : Prop where
  parts : key.parts.Sound key.algorithm
  seedFits : key.algorithm.SeedFits key.seed

theorem Fresh.sound {key : Key} (fresh : key.Fresh) : key.Sound where
  parts := by
    obtain ⟨noPublic, noPrivate, noHandle⟩ := fresh.parts
    rw [Key.parts, noPublic, noPrivate, noHandle]
    exact .empty
  seedFits := fresh.seedFits

/-- Every effect keeps the invariant. -/
theorem Sound.effect {before after : Key} (effect : Effect before after) (sound : before.Sound) :
    after.Sound := by
  cases effect with
  | generated draw done =>
      exact ⟨.ofGenerated (Algorithm.generates_of_keygen sound.seedFits done), sound.seedFits⟩
  | imported selection set read => exact ⟨(Parts.read_eq_ok_iff.1 read).2.1, sound.seedFits⟩
  | replaced bytes read => exact ⟨.ofPublic read, sound.seedFits⟩
  | queried query => exact ⟨sound.parts, sound.seedFits⟩

/-- Every reachable key satisfies the invariant. -/
theorem Reachable.sound {key : Key} (reachable : key.Reachable) : key.Sound := by
  refine Reachable.effectInduction (motive := Key.Sound) ?_ ?_ ?_ reachable
  · intro origin fresh
    exact fresh.sound
  · intro memory origin draw made fresh done
    exact fresh.sound.effect (.generated draw done)
  · intro before after _ effect sound
    exact sound.effect effect

theorem Sound.classical_eq_handle {key : Key} (sound : key.Sound) :
    key.classical = key.algorithm.handle key.publicKey key.privateKey :=
  sound.parts.handle

/-! ### What a host sees of it -/

/-- The stored parts are readable, and the classical handle is there, holds its scalar and has its value
as the stored parts say. -/
structure Consistent (key : Key) : Prop where
  publicPart : ∀ bytes, key.publicKey = some bytes →
    bytes.length = key.algorithm.publicKeyLength ∧
      ∃ handle, key.algorithm.readPublic bytes = .ok handle
  privatePart : ∀ secret, key.privateKey = some secret →
    secret.length = key.algorithm.privateKeyLength ∧
      ∃ handle, key.algorithm.readPrivate secret.bytes = .ok handle
  handlePresent : key.classical.isSome ↔
    key.algorithm.keyClass.isHybrid ∧ (key.publicKey.isSome ∨ key.privateKey.isSome)
  scalarHeld : (∃ handle, key.classical = some handle ∧ handle.hasPrivate) ↔
    key.algorithm.keyClass.isHybrid ∧ key.privateKey.isSome
  rebuiltFromPrivate : ∀ secret, key.privateKey = some secret →
    key.algorithm.readPrivate secret.bytes = .ok key.classical
  rebuiltFromPublic : ∀ bytes, key.publicKey = some bytes → key.privateKey = none →
    key.algorithm.readPublic bytes = .ok key.classical

/-- Whatever a host does, in whatever order and with whatever success, its keys are consistent. -/
theorem Reachable.consistent {key : Key} (reachable : key.Reachable) : key.Consistent := by
  have handle := reachable.sound.classical_eq_handle
  obtain ⟨valid, -⟩ := reachable.sound
  refine ⟨?_, ?_, ?_, ?_, ?_, ?_⟩
  · intro bytes held
    have accepted := valid.publicAccepted bytes held
    exact ⟨accepted.length, _, Algorithm.readPublic_eq_ok_iff.2 ⟨accepted, rfl⟩⟩
  · intro secret held
    have accepted := valid.privateAccepted secret held
    exact ⟨accepted.length, _, Algorithm.readPrivate_eq_ok_iff.2 ⟨accepted, rfl⟩⟩
  · rw [handle, Algorithm.isSome_handle_iff]
  · rw [handle, Algorithm.hasPrivate_handle_iff]
  · intro secret held
    rw [Algorithm.readPrivate_eq_ok_iff]
    refine ⟨valid.privateAccepted secret held, ?_⟩
    rw [handle, held, Algorithm.handle]
  · intro bytes held absent
    rw [Algorithm.readPublic_eq_ok_iff]
    refine ⟨valid.publicAccepted bytes held, ?_⟩
    rw [handle, held, absent, Algorithm.handle]

/-- An empty key that is given an encoded public key: its handle is the one that is read from it. -/
theorem consistent_of_encoded_public_key :
    let bytes := Composite.layout (List.replicate 32 9) (List.replicate 800 0)
    let key := ((replacePublicKey .addressable bytes).run (withoutParts .x25519Mlkem512)).state
    key.Reachable ∧ key.publicKey = some bytes ∧
      key.classical = some ⟨.x25519, List.replicate 32 9, none⟩ ∧ key.Consistent := by
  intro bytes key
  have accepted : (withoutParts .x25519Mlkem512).algorithm.AcceptsPublic bytes :=
    Algorithm.x25519Mlkem512_acceptsPublic List.length_replicate List.length_replicate
  have left : key = (withoutParts .x25519Mlkem512).withParts
      ⟨some bytes, none, (withoutParts .x25519Mlkem512).algorithm.publicHandle bytes⟩ := by
    have granted : Memory.addressable.grants ParameterName.encodedPublicKey bytes.length = true := by
      rw [Composite.length_layout, List.length_replicate, List.length_replicate]
      rfl
    simp only [key, run_replacePublicKey, Algorithm.readPublic_eq_ok_iff.2 ⟨accepted, rfl⟩, granted,
      if_true]
  have part : Composite.classicalPart 32 bytes = List.replicate 32 9 :=
    Composite.classicalPart_layout List.length_replicate _
  have reachable : key.Reachable :=
    reachable_x25519Mlkem512.step (.direct .addressable (.replacePublicKey bytes) rfl)
  refine ⟨reachable, by rw [left, withParts], ?_, reachable.consistent⟩
  rw [left, ← part]
  rfl

end Key

end HybridKeys
