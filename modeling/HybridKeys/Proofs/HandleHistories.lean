/-
Module: HybridKeys.Proofs.HandleHistories
Purpose: The handles to classical keys that a host holds, whatever it did to come by them and since then.
Main exports: KeptScalar, KeptScalar.write_of_read?, ClassicalKey.Call, ClassicalKey.handlesAfter,
  made_iff_mem_handlesAfter, ClassicalKey.Restorable, ofPrivate_eq_ok_iff_kept, handles_restorable
-/
import HybridKeys.Proofs.KeyGrammar

namespace HybridKeys

/-!
A public key that is given is checked, and one that is derived from a private key is not.  Still each can
be given back and passes the check, and so does each private key that a handle returns.  A host holds
its handles at places: new handles and copies come after the ones that are there, and a handle that
forgets its private key does so at its own place only, so that its copies keep theirs.
-/

/-! ### Private keys as they are kept -/

/-- What is kept of a private key: on P-256 the number that the bytes write, and on X25519 the bytes, which
are clamped each time that they are used as a number. -/
inductive KeptScalar where
  | number (value : ℕ)
  | raw (bytes : Bytes)

namespace KeptScalar

/-- What is kept of bytes, if they are a private key. -/
def read? : Curve → Bytes → Option KeptScalar
  | .p256, bytes =>
    let value := Bytes.toNat bytes
    if 0 < value ∧ value < P256.groupOrder then some (.number value) else none
  | .x25519, bytes => some (.raw bytes)

/-- The private key, written again from what was kept of it. -/
def write : KeptScalar → Bytes
  | .number value => Bytes.ofNat P256.fieldWidth value
  | .raw bytes => bytes

/-- The public key, derived from what was kept. -/
def publicKey : KeptScalar → Bytes
  | .number value => P256.publicKey value
  | .raw bytes => X25519.publicKey bytes

variable {curve : Curve} {bytes : Bytes} {kept : KeptScalar}

/-- The bytes of which something is kept are those that the curve accepts. -/
theorem exists_read?_iff :
    (∃ kept, read? curve bytes = some kept) ↔ curve.acceptsPrivate bytes = true := by
  cases curve with
  | p256 => simp [read?, Curve.acceptsPrivate]
  | x25519 => exact ⟨fun _ => rfl, fun _ => ⟨.raw bytes, rfl⟩⟩

/-- Nothing is lost of bytes of the length of a private key. -/
theorem write_of_read? (length : bytes.length = curve.privateKeyLength)
    (read : read? curve bytes = some kept) : kept.write = bytes := by
  cases curve with
  | p256 =>
      obtain ⟨-, ⟨⟩⟩ := Option.ite_none_right_eq_some.1 read
      have width : P256.fieldWidth = bytes.length := length.symm
      rw [write, width, Bytes.ofNat_toNat]
  | x25519 =>
      cases read
      rfl

theorem publicKey_of_read? (read : read? curve bytes = some kept) :
    kept.publicKey = curve.derive bytes := by
  cases curve with
  | p256 =>
      obtain ⟨-, ⟨⟩⟩ := Option.ite_none_right_eq_some.1 read
      rfl
  | x25519 =>
      cases read
      rfl

end KeptScalar

namespace ClassicalKey

/-! ### Hosts -/

/-- What a host can do: come by a handle in one of three ways, copy the handle at a place, and have it
forget its private key. -/
inductive Call where
  | generate (curve : Curve) (fresh : curve.Scalar)
  | ofPublic (curve : Curve) (bytes : Bytes)
  | ofPrivate (curve : Curve) (bytes : Bytes)
  | copy (place : ℕ)
  | forgetPrivate (place : ℕ)

/-- The handles after a call.  Encoded keys that are refused lead to no handle. -/
def Call.apply (handles : List ClassicalKey) : Call → List ClassicalKey
  | .generate curve fresh => handles ++ [ClassicalKey.generate curve fresh]
  | .ofPublic curve bytes => handles ++ (ClassicalKey.ofPublic curve bytes).toOption.toList
  | .ofPrivate curve bytes => handles ++ (ClassicalKey.ofPrivate curve bytes).toOption.toList
  | .copy place => handles ++ handles[place]?.toList
  | .forgetPrivate place => handles.modify place ClassicalKey.forgetPrivate

/-- The handles of a host that started without any. -/
def handlesAfter (calls : List Call) : List ClassicalKey :=
  calls.foldl Call.apply []

variable {handles : List ClassicalKey} {key : ClassicalKey} {place : ℕ}

theorem handlesAfter_append (calls later : List Call) :
    handlesAfter (calls ++ later) = later.foldl Call.apply (handlesAfter calls) :=
  List.foldl_append

theorem handlesAfter_concat (calls : List Call) (call : Call) :
    handlesAfter (calls ++ [call]) = call.apply (handlesAfter calls) :=
  handlesAfter_append calls [call]

theorem mem_toList_toOption_iff {result : Except Error ClassicalKey} :
    key ∈ result.toOption.toList ↔ result = .ok key := by
  cases result with
  | error e => simp [Except.toOption]
  | ok made => simp [Except.toOption, eq_comm]

/-- One call leads from handles that a host can come by to handles that it can come by. -/
theorem made_of_mem_apply (made : ∀ key ∈ handles, Made key) (call : Call)
    (mem : key ∈ call.apply handles) : Made key := by
  cases call with
  | generate curve fresh =>
      rcases List.mem_append.1 mem with old | new
      · exact made key old
      · rw [List.mem_singleton.1 new]
        exact .generate curve fresh
  | ofPublic curve bytes =>
      rcases List.mem_append.1 mem with old | new
      · exact made key old
      · exact .ofPublic (mem_toList_toOption_iff.1 new)
  | ofPrivate curve bytes =>
      rcases List.mem_append.1 mem with old | new
      · exact made key old
      · exact .ofPrivate (mem_toList_toOption_iff.1 new)
  | copy other =>
      rcases List.mem_append.1 mem with old | new
      · exact made key old
      · exact made key (List.mem_of_getElem? (Option.mem_toList.1 new))
  | forgetPrivate other =>
      obtain ⟨place, found⟩ := List.mem_iff_getElem?.1 mem
      rw [Call.apply, List.getElem?_modify] at found
      obtain ⟨before, held, rfl⟩ := Option.map_eq_some_iff.1 found
      have wasMade := made before (List.mem_of_getElem? held)
      split
      · exact .forgetPrivate wasMade
      · exact wasMade

/-- So does a run, whatever its calls are. -/
theorem made_of_mem_handlesAfter {calls : List Call} (mem : key ∈ handlesAfter calls) :
    Made key := by
  induction calls using List.reverseRecOn generalizing key with
  | nil => cases mem
  | append_singleton calls call inductionHypothesis =>
      rw [handlesAfter_concat] at mem
      exact made_of_mem_apply (fun _ => inductionHypothesis) call mem

/-! ### Places -/

/-- A call leaves the handle at a place as it is, unless it is there that a private key is forgotten. -/
theorem getElem?_apply_of_ne {call : Call} (other : call ≠ .forgetPrivate place)
    (held : handles[place]? = some key) : (call.apply handles)[place]? = some key := by
  have inside : place < handles.length := (List.getElem?_eq_some_iff.1 held).1
  cases call with
  | generate curve fresh => exact (List.getElem?_append_left inside).trans held
  | ofPublic curve bytes => exact (List.getElem?_append_left inside).trans held
  | ofPrivate curve bytes => exact (List.getElem?_append_left inside).trans held
  | copy original => exact (List.getElem?_append_left inside).trans held
  | forgetPrivate elsewhere =>
      have apart : elsewhere ≠ place := fun same => other (congrArg Call.forgetPrivate same)
      simp [Call.apply, held, apart]

theorem getElem?_apply_forgetPrivate (held : handles[place]? = some key) :
    ((Call.forgetPrivate place).apply handles)[place]? = some key.forgetPrivate := by
  simp [Call.apply, held]

theorem getElem?_foldl_apply_of_notMem {later : List Call} (none : .forgetPrivate place ∉ later)
    (held : handles[place]? = some key) : (later.foldl Call.apply handles)[place]? = some key := by
  induction later generalizing handles with
  | nil => exact held
  | cons call rest inductionHypothesis =>
      obtain ⟨other, noneInRest⟩ := not_or.1 (mt List.mem_cons.2 none)
      exact inductionHypothesis noneInRest (getElem?_apply_of_ne (Ne.symm other) held)

/-- Once or more often, forgetting the private key has the same result. -/
theorem getElem?_foldl_apply_of_mem {later : List Call} (some : .forgetPrivate place ∈ later)
    (held : handles[place]? = .some key) :
    (later.foldl Call.apply handles)[place]? = .some key.forgetPrivate := by
  induction later generalizing handles key with
  | nil => cases some
  | cons call rest inductionHypothesis =>
      rw [List.foldl_cons]
      by_cases first : call = .forgetPrivate place
      · subst first
        have forgotten := getElem?_apply_forgetPrivate held
        by_cases again : .forgetPrivate place ∈ rest
        · have twice := inductionHypothesis again forgotten
          exact twice
        · exact getElem?_foldl_apply_of_notMem again forgotten
      · have inRest := (List.mem_cons.1 some).resolve_left (Ne.symm first)
        exact inductionHypothesis inRest (getElem?_apply_of_ne first held)

/-- The handles that a host can come by are those that it holds after some calls. -/
theorem made_iff_mem_handlesAfter : Made key ↔ ∃ calls, key ∈ handlesAfter calls := by
  constructor
  · intro made
    induction made with
    | generate curve fresh => exact ⟨[.generate curve fresh], List.mem_singleton.2 rfl⟩
    | @ofPublic curve bytes key read =>
        exact ⟨[.ofPublic curve bytes], mem_toList_toOption_iff.2 read⟩
    | @ofPrivate curve bytes key read =>
        exact ⟨[.ofPrivate curve bytes], mem_toList_toOption_iff.2 read⟩
    | @forgetPrivate key _ inductionHypothesis =>
        obtain ⟨calls, mem⟩ := inductionHypothesis
        obtain ⟨place, held⟩ := List.mem_iff_getElem?.1 mem
        refine ⟨calls ++ [.forgetPrivate place], ?_⟩
        rw [handlesAfter_concat]
        exact List.mem_of_getElem? (getElem?_apply_forgetPrivate held)
  · rintro ⟨calls, mem⟩
    exact made_of_mem_handlesAfter mem

/-! ### Giving back what a handle returns -/

/-- A handle from whose keys the same handle is made again: the one without a private key from its public
key, and the handle itself from its private key. -/
structure Restorable (key : ClassicalKey) : Prop where
  publicLength : key.publicKey.length = key.curve.publicKeyLength
  fromPublic : ofPublic key.curve key.publicKey = .ok { key with privateKey := none }
  privateLength : ∀ scalar, key.privateKey = some scalar →
    scalar.length = key.curve.privateKeyLength
  fromPrivate : ∀ scalar, key.privateKey = some scalar → ofPrivate key.curve scalar = .ok key

theorem Sound.restorable (sound : key.Sound) : key.Restorable where
  publicLength := sound.isPublic.1
  fromPublic := ofPublic_eq_ok_iff.2 ⟨sound.isPublic, rfl⟩
  privateLength := by
    intro scalar holds
    exact (sound.held scalar holds).1.1
  fromPrivate := by
    intro scalar holds
    exact ofPrivate_eq_ok_iff.2 ⟨(sound.held scalar holds).1, sound.eq_ofScalar holds⟩

/-- Reading a private key keeps what the curve keeps of it; the handle returns what that is when written
again, and the public key that is derived from it. -/
theorem ofPrivate_eq_ok_iff_kept {curve : Curve} {bytes : Bytes} :
    ofPrivate curve bytes = .ok key ↔ bytes.length = curve.privateKeyLength ∧
      ∃ kept, KeptScalar.read? curve bytes = some kept ∧
        key = { curve := curve, publicKey := kept.publicKey, privateKey := some kept.write } := by
  rw [ofPrivate_eq_ok_iff]
  constructor
  · rintro ⟨⟨length, accepted⟩, rfl⟩
    obtain ⟨kept, read⟩ := KeptScalar.exists_read?_iff.2 accepted
    refine ⟨length, kept, read, ?_⟩
    rw [KeptScalar.publicKey_of_read? read, KeptScalar.write_of_read? length read]
    rfl
  · rintro ⟨length, kept, read, rfl⟩
    refine ⟨⟨length, KeptScalar.exists_read?_iff.1 ⟨kept, read⟩⟩, ?_⟩
    rw [KeptScalar.publicKey_of_read? read, KeptScalar.write_of_read? length read]
    rfl

/-- Every number from one to the order of the group less one, written in 32 bytes, is a private key, and
its public key is an uncompressed point that is accepted. -/
theorem exists_p256_of_range {bytes : Bytes} (length : bytes.length = 32)
    (positive : 1 ≤ Bytes.toNat bytes) (below : Bytes.toNat bytes ≤ P256.groupOrder - 1) :
    ∃ key, ofPrivate .p256 bytes = .ok key ∧ Curve.IsPoint .p256 key.publicKey ∧
      ofPublic .p256 key.publicKey = .ok { key with privateKey := none } := by
  have isPrivate : Curve.IsPrivate .p256 bytes :=
    ⟨length, Curve.acceptsPrivate_iff_isScalar.2 ⟨positive, below⟩⟩
  have isPublic := Curve.isPublic_derive isPrivate
  exact ⟨ofScalar .p256 bytes, ofPrivate_eq_ok_iff.2 ⟨isPrivate, rfl⟩,
    Curve.acceptsPublic_iff_isPoint.1 isPublic.2, ofPublic_eq_ok_iff.2 ⟨isPublic, rfl⟩⟩

/-- After any calls, each handle of a host can be made again from the keys that it returns.  It stays at
its place as it is until its private key is forgotten there, which keeps the rest of it and touches no
other handle; a copy is one more handle.  What is read from a private key holds the bytes that were
given, however they are kept, and on P-256 every number of the group is one. -/
theorem handles_restorable (calls : List Call) :
    (∀ key ∈ handlesAfter calls, Restorable key) ∧
    (∀ (place : ℕ) (key : ClassicalKey), (handlesAfter calls)[place]? = some key →
      handlesAfter (calls ++ [.copy place]) = handlesAfter calls ++ [key] ∧
      ∀ later : List Call,
        (.forgetPrivate place ∉ later → (handlesAfter (calls ++ later))[place]? = some key) ∧
        (.forgetPrivate place ∈ later →
          (handlesAfter (calls ++ later))[place]? = some { key with privateKey := none })) ∧
    (∀ (curve : Curve) (bytes : Bytes) (key : ClassicalKey),
      (ofPrivate curve bytes = .ok key ↔ bytes.length = curve.privateKeyLength ∧
        ∃ kept, KeptScalar.read? curve bytes = some kept ∧
          key = { curve := curve, publicKey := kept.publicKey, privateKey := some kept.write }) ∧
      (ofPrivate curve bytes = .ok key → key.curve = curve ∧ key.privateKey = some bytes)) ∧
    ∀ bytes : Bytes, bytes.length = 32 → 1 ≤ Bytes.toNat bytes →
      Bytes.toNat bytes ≤ P256.groupOrder - 1 →
      ∃ key, ofPrivate .p256 bytes = .ok key ∧ Curve.IsPoint .p256 key.publicKey ∧
        ofPublic .p256 key.publicKey = .ok { key with privateKey := none } := by
  refine ⟨?_, ?_, ?_, ?_⟩
  · intro key mem
    exact (made_of_mem_handlesAfter mem).sound.restorable
  · intro place key held
    constructor
    · rw [handlesAfter_concat, Call.apply, held, Option.toList_some]
    · intro later
      rw [handlesAfter_append]
      constructor
      · intro none
        exact getElem?_foldl_apply_of_notMem none held
      · intro forgets
        exact getElem?_foldl_apply_of_mem forgets held
  · intro curve bytes key
    refine ⟨ofPrivate_eq_ok_iff_kept, ?_⟩
    intro read
    obtain ⟨-, rfl⟩ := ofPrivate_eq_ok_iff.1 read
    exact ⟨rfl, rfl⟩
  · intro bytes length positive below
    exact exists_p256_of_range length positive below

/-- A copy keeps the private key that the original forgets. -/
example : (handlesAfter [.ofPrivate .x25519 (List.replicate 32 1), .copy 0, .forgetPrivate 0]).map
    privateKey = [none, some (List.replicate 32 1)] := by
  rfl

end ClassicalKey

end HybridKeys
