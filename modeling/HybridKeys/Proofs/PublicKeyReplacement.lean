/-
Module: HybridKeys.Proofs.PublicKeyReplacement
Purpose: The three calls that can put an encoded public key in the place of the parts of a key, and when
  they end alike.
Main exports: Error.SameCause, Key.withPublicKey, Key.Places, Key.EndAlike, read_publicHalf,
  run_setParameters_of_encoded, Key.placing, endAlike_placing_iff, replacements_end_alike
-/
import HybridKeys.Proofs.ExportImport
import HybridKeys.Proofs.FirstParameters
import HybridKeys.Proofs.KeyGrammar

namespace HybridKeys

/-!
An encoded public key can be given to a key as it is, as an imported half, or as a settable parameter.
The first call reads the bytes and stores a copy.  The second goes through the reading of both halves,
one of which is not there, and merges their handles.  The third makes the first call and changes the
context of its error.  All three come down to one reading of the bytes, and what is wrong with the bytes
is wrong in all three.  The copies are another matter: each call asks for one of its own, the import under
another name than the other two, and nothing makes the allocator give them the same answer.
-/

/-- Two errors that tell the same, the second one in a given context. -/
inductive Error.SameCause (context : String) : Error → Error → Prop where
  | mismatchedLength {old : String} {expected actual : ℕ} :
      SameCause context (.mismatchedLength old expected actual)
        (.mismatchedLength context expected actual)
  | invalidInput {old message : String} :
      SameCause context (.invalidInput old message) (.invalidInput context message)

/-- Every cause for which bytes are refused has a context that can be changed. -/
theorem KeyForm.Refuses.sameCause {form : KeyForm} {a : Algorithm} {bytes : Bytes} {e : Error}
    (refuses : form.Refuses a bytes e) (context : String) :
    Error.SameCause context e (e.inContext context) := by
  cases refuses with
  | length => exact .mismatchedLength
  | header => exact .mismatchedLength
  | part => exact .invalidInput

namespace Key

/-! ### The three calls -/

/-- The key with an encoded public key and nothing else.  A hybrid key gets a handle without a scalar, from
the classical part of the bytes. -/
def withPublicKey (key : Key) (bytes : Bytes) : Key :=
  key.withParts
    { publicKey := some bytes
      privateKey := none
      classical := key.algorithm.curve.map fun curve =>
        ⟨curve, (bytes.drop 4).take curve.publicKeyLength, none⟩ }

/-- A call succeeds exactly when the bytes are a valid public key that could be copied.  Then it gives the
key the bytes for its public key, and otherwise it leaves the key as it was. -/
structure Places (key : Key) (bytes : Bytes) (copied : Bool) (outcome : Outcome Key Unit) : Prop where
  succeeds : outcome.result = .ok () ↔ key.algorithm.AcceptsPublic bytes ∧ copied = true
  replaced : outcome.result = .ok () → outcome.state = key.withPublicKey bytes
  kept : ∀ e, outcome.result = .error e → outcome.state = key

/-- Three calls end alike: they all give the key the bytes for its public key, or they all leave it as it
was, for the same cause.  What is wrong with the bytes the third reports in a context of its own, and a
copy that cannot be had the second. -/
inductive EndAlike (key : Key) (bytes : Bytes) :
    Outcome Key Unit → Outcome Key Unit → Outcome Key Unit → Prop where
  | replaced {first second third : List Event} (valid : key.algorithm.AcceptsPublic bytes) :
      EndAlike key bytes ⟨.ok (), key.withPublicKey bytes, first⟩
        ⟨.ok (), key.withPublicKey bytes, second⟩ ⟨.ok (), key.withPublicKey bytes, third⟩
  | refused {first second third : List Event} {cause reported : Error}
      (invalid : ¬ key.algorithm.AcceptsPublic bytes)
      (same : cause.SameCause ParameterName.encodedPublicKey reported) :
      EndAlike key bytes ⟨.error cause, key, first⟩ ⟨.error cause, key, second⟩
        ⟨.error reported, key, third⟩
  | unallocated {first second third : List Event} (valid : key.algorithm.AcceptsPublic bytes) :
      EndAlike key bytes ⟨.error (.allocationFailure ParameterName.encodedPublicKey), key, first⟩
        ⟨.error (.allocationFailure ParameterName.publicKey), key, second⟩
        ⟨.error (.allocationFailure ParameterName.encodedPublicKey), key, third⟩

variable {memory : Memory} {a : Algorithm} {bytes : Bytes} {imported settings : ParameterSet}

/-- What is read for a public half alone is what the reading of its bytes makes of it, if they can be
copied. -/
theorem read_publicHalf
    (given : imported.first? Parameter.Value.octets? ParameterName.publicKey = some bytes) :
    Parts.read memory a .publicHalf imported =
      match a.readPublic bytes with
      | .error e => .error e
      | .ok classical =>
        if memory.grants ParameterName.publicKey bytes.length then .ok ⟨some bytes, none, classical⟩
        else .error (.allocationFailure ParameterName.publicKey) := by
  have publicPart : Parts.taken Selection.publicHalf.publicKey imported ParameterName.publicKey =
      .ok (some bytes) :=
    ParameterSet.readOctets_of_first given
  have privatePart : Parts.taken Selection.publicHalf.privateKey imported ParameterName.privateKey =
      .ok none := rfl
  rw [Parts.read_eq]
  cases read : a.readPublic bytes with
  | error e =>
      have mapped : (some bytes).mapM a.readPublic = .error e := by
        rw [Option.mapM_some, read]
        rfl
      have unread : Parts.checked a .publicHalf imported = .error e := by
        rw [Parts.checked, publicPart, privatePart]
        change ((some bytes).mapM a.readPublic >>= fun _ => _) = _
        rw [mapped]
        rfl
      rw [unread]
      rfl
  | ok classical =>
      rw [Parts.checked_eq_ok_iff.2 ⟨⟨publicPart, privatePart, .inl rfl⟩, .ofPublic read⟩]
      exact Parts.copied_eq memory _

/-- Parameters with an encoded public key and no property query do what the first call does, and report
its error in their own context. -/
theorem run_setParameters_of_encoded
    (given : settings.first? Parameter.Value.octets? ParameterName.encodedPublicKey = some bytes)
    (noQuery : settings.find? ParameterName.properties = none) (key : Key) :
    let direct := (replacePublicKey memory bytes).run key
    (setParameters memory settings).run key =
      ⟨direct.result.mapError (·.inContext ParameterName.encodedPublicKey), direct.state,
        .setParameters key.algorithm.name :: direct.events⟩ := by
  intro direct
  have writes : (do replaceIfGiven memory (some bytes); queryIfGiven memory none : Action Key Unit) =
      (replacePublicKey memory bytes).mapError (·.inContext ParameterName.encodedPublicKey) :=
    Action.bind_pure _
  rw [run_setParameters_of_read (ParameterSet.readOctets_of_first given)
    (ParameterSet.readText_of_absent noQuery), writes]
  rfl

/-! ### Bytes that are not valid -/

section InvalidBytes

variable {key : Key} {e : Error} (read : key.algorithm.readPublic bytes = .error e)
include read

theorem not_acceptsPublic_of_invalid : ¬ key.algorithm.AcceptsPublic bytes := by
  intro accepted
  rw [Algorithm.readPublic_eq_ok_iff.2 ⟨accepted, rfl⟩] at read
  cases read

theorem run_replacePublicKey_of_invalid :
    (replacePublicKey memory bytes).run key = ⟨.error e, key, []⟩ := by
  rw [run_replacePublicKey, read]

theorem run_importParts_of_invalid
    (publicHalf : imported.first? Parameter.Value.octets? ParameterName.publicKey = some bytes) :
    (importParts memory .publicHalf imported).run key =
      ⟨.error e, key, [.keyImport key.algorithm.name .publicHalf]⟩ := by
  rw [run_importParts, read_publicHalf publicHalf, read]

theorem run_setParameters_of_invalid
    (encoded : settings.first? Parameter.Value.octets? ParameterName.encodedPublicKey = some bytes)
    (noQuery : settings.find? ParameterName.properties = none) :
    (setParameters memory settings).run key =
      ⟨.error (e.inContext ParameterName.encodedPublicKey), key,
        [.setParameters key.algorithm.name]⟩ := by
  rw [run_setParameters_of_encoded encoded noQuery, run_replacePublicKey_of_invalid read]
  rfl

/-- A call that found the bytes to be no valid public key leaves the key as it was. -/
theorem places_of_invalid (copied : Bool) (reported : Error) (events : List Event) :
    Places key bytes copied ⟨.error reported, key, events⟩ where
  succeeds := by
    refine iff_of_false nofun ?_
    rintro ⟨accepted, -⟩
    exact not_acceptsPublic_of_invalid read accepted
  replaced := nofun
  kept := fun _ _ => rfl

end InvalidBytes

/-! ### Copies of valid bytes -/

/-- How a call ends that has found the bytes valid: it depends on its copy alone. -/
def placing (key : Key) (bytes : Bytes) (copied : Bool) (context : String) (events : List Event) :
    Outcome Key Unit :=
  if copied then ⟨.ok (), key.withPublicKey bytes, events⟩
  else ⟨.error (.allocationFailure context), key, events⟩

theorem result_placing_eq_ok_iff {key : Key} {copied : Bool} {context : String}
    {events : List Event} :
    (key.placing bytes copied context events).result = .ok () ↔ copied = true := by
  cases copied <;> simp [placing]

theorem places_placing {key : Key} (valid : key.algorithm.AcceptsPublic bytes) (copied : Bool)
    (context : String) (events : List Event) :
    Places key bytes copied (key.placing bytes copied context events) where
  succeeds := result_placing_eq_ok_iff.trans (and_iff_right valid).symm
  replaced := by
    intro done
    rw [result_placing_eq_ok_iff.1 done]
    rfl
  kept := by
    intro e failed
    cases copied with
    | false => rfl
    | true => cases failed

/-- Calls that end alike all succeed or all fail. -/
theorem EndAlike.succeeds_iff {key : Key} {first second third : Outcome Key Unit}
    (alike : EndAlike key bytes first second third) :
    (first.result = .ok () ↔ second.result = .ok ()) ∧
      (first.result = .ok () ↔ third.result = .ok ()) := by
  cases alike <;> simp

/-- Calls that found the bytes valid end alike when they all get their copies or none does. -/
theorem endAlike_placing_iff {key : Key} (valid : key.algorithm.AcceptsPublic bytes)
    {direct imports sets : Bool} {first second third : List Event} :
    EndAlike key bytes (key.placing bytes direct ParameterName.encodedPublicKey first)
        (key.placing bytes imports ParameterName.publicKey second)
        (key.placing bytes sets ParameterName.encodedPublicKey third) ↔
      direct = imports ∧ direct = sets := by
  constructor
  · intro alike
    simpa only [result_placing_eq_ok_iff, ← Bool.eq_iff_iff] using alike.succeeds_iff
  · rintro ⟨rfl, rfl⟩
    cases direct with
    | false => exact .unallocated valid
    | true => exact .replaced valid

section ValidBytes

variable {key : Key} {classical : Option ClassicalKey}

theorem withParts_eq_withPublicKey (read : key.algorithm.readPublic bytes = .ok classical) :
    key.withParts ⟨some bytes, none, classical⟩ = key.withPublicKey bytes := by
  obtain ⟨-, rfl⟩ := Algorithm.readPublic_eq_ok_iff.1 read
  rfl

theorem run_replacePublicKey_of_valid (read : key.algorithm.readPublic bytes = .ok classical) :
    (replacePublicKey memory bytes).run key =
      key.placing bytes (memory.grants ParameterName.encodedPublicKey bytes.length)
        ParameterName.encodedPublicKey [] := by
  rw [run_replacePublicKey, read, placing, ← withParts_eq_withPublicKey read]

theorem run_importParts_of_valid
    (publicHalf : imported.first? Parameter.Value.octets? ParameterName.publicKey = some bytes)
    (read : key.algorithm.readPublic bytes = .ok classical) :
    (importParts memory .publicHalf imported).run key =
      key.placing bytes (memory.grants ParameterName.publicKey bytes.length)
        ParameterName.publicKey [.keyImport key.algorithm.name .publicHalf] := by
  rw [run_importParts, read_publicHalf publicHalf, read, placing, ← withParts_eq_withPublicKey read]
  cases memory.grants ParameterName.publicKey bytes.length <;> rfl

theorem run_setParameters_of_valid
    (encoded : settings.first? Parameter.Value.octets? ParameterName.encodedPublicKey = some bytes)
    (noQuery : settings.find? ParameterName.properties = none)
    (read : key.algorithm.readPublic bytes = .ok classical) :
    (setParameters memory settings).run key =
      key.placing bytes (memory.grants ParameterName.encodedPublicKey bytes.length)
        ParameterName.encodedPublicKey [.setParameters key.algorithm.name] := by
  rw [run_setParameters_of_encoded encoded noQuery, run_replacePublicKey_of_valid read, placing,
    placing]
  cases memory.grants ParameterName.encodedPublicKey bytes.length <;> rfl

end ValidBytes

/-- Whatever a key holds, and whatever the bytes are, each of the three calls makes them its only part, if
they are valid and it gets its copy of them, or else leaves the key as it was.  Bytes that are not valid
are refused by all three for the same cause.  With valid bytes the calls end alike exactly when all of
them get their copies, or none does. -/
theorem replacements_end_alike
    (publicHalf : imported.first? Parameter.Value.octets? ParameterName.publicKey = some bytes)
    (encoded : settings.first? Parameter.Value.octets? ParameterName.encodedPublicKey = some bytes)
    (noQuery : settings.find? ParameterName.properties = none) (key : Key)
    (direct importing setting : Memory) :
    let replaces := (replacePublicKey direct bytes).run key
    let imports := (importParts importing .publicHalf imported).run key
    let sets := (setParameters setting settings).run key
    let directly := direct.grants ParameterName.encodedPublicKey bytes.length
    let byImport := importing.grants ParameterName.publicKey bytes.length
    let bySetting := setting.grants ParameterName.encodedPublicKey bytes.length
    Places key bytes directly replaces ∧ Places key bytes byImport imports ∧
      Places key bytes bySetting sets ∧
      (EndAlike key bytes replaces imports sets ↔
        (key.algorithm.AcceptsPublic bytes → directly = byImport ∧ directly = bySetting)) := by
  intro replaces imports sets directly byImport bySetting
  cases read : key.algorithm.readPublic bytes with
  | error e =>
      have refuses := Algorithm.readPublic_eq_error_iff.1 read
      have invalid := not_acceptsPublic_of_invalid read
      have replacesRun : replaces = _ := run_replacePublicKey_of_invalid read
      have importsRun : imports = _ := run_importParts_of_invalid read publicHalf
      have setsRun : sets = _ := run_setParameters_of_invalid read encoded noQuery
      rw [replacesRun, importsRun, setsRun]
      refine ⟨places_of_invalid read .., places_of_invalid read .., places_of_invalid read .., ?_⟩
      exact iff_of_true (.refused invalid (refuses.sameCause _)) fun valid => absurd valid invalid
  | ok classical =>
      have valid := (Algorithm.readPublic_eq_ok_iff.1 read).1
      have replacesRun : replaces = _ := run_replacePublicKey_of_valid read
      have importsRun : imports = _ := run_importParts_of_valid publicHalf read
      have setsRun : sets = _ := run_setParameters_of_valid encoded noQuery read
      rw [replacesRun, importsRun, setsRun, endAlike_placing_iff valid, forall_prop_of_true valid]
      exact ⟨places_placing valid .., places_placing valid .., places_placing valid .., Iff.rfl⟩

/-- A hybrid key with both halves is given a valid public key, and a string of one byte.  In both cases
the sets have parameters besides the one that counts. -/
theorem replacements_of_importedPair :
    let key := importedPair (List.replicate 32 9) (List.replicate 32 1)
    let imported (bytes : Bytes) : ParameterSet :=
      ⟨[⟨ParameterName.privateKey, .int 1, false⟩, ⟨ParameterName.publicKey, .octets bytes, false⟩]⟩
    let settings (bytes : Bytes) : ParameterSet :=
      ⟨[⟨ParameterName.encodedPublicKey, .octets bytes, false⟩,
        ⟨ParameterName.encodedPublicKey, .int 1, false⟩]⟩
    let ends (memory : Memory) (bytes : Bytes) : Prop :=
      EndAlike key bytes ((replacePublicKey memory bytes).run key)
        ((importParts memory .publicHalf (imported bytes)).run key)
        ((setParameters memory (settings bytes)).run key)
    let encoded := publicKeyOf (List.replicate 32 8)
    ends .addressable encoded ∧ ((replacePublicKey .addressable encoded).run key).result = .ok () ∧
      ends .addressable [4] ∧ ((setParameters .addressable (settings [4])).run key).result =
        .error (.mismatchedLength ParameterName.encodedPublicKey 836 1) ∧
      ¬ ends (.exhaustedFor ParameterName.publicKey) encoded := by
  intro key imported settings ends encoded
  have accepted : key.algorithm.AcceptsPublic encoded :=
    importedPair_acceptsPublic List.length_replicate List.length_replicate List.length_replicate
  have size : encoded.length = 836 := length_publicKeyOf List.length_replicate
  have publicHalf (bytes : Bytes) : (imported bytes).first? Parameter.Value.octets?
      ParameterName.publicKey = some bytes := rfl
  have encodedKey (bytes : Bytes) : (settings bytes).first? Parameter.Value.octets?
      ParameterName.encodedPublicKey = some bytes := rfl
  have alike (memory : Memory) (bytes : Bytes) :=
    (replacements_end_alike (publicHalf bytes) (encodedKey bytes) rfl key memory memory memory).2.2.2
  refine ⟨?_, ?_, ?_, ?_, ?_⟩
  · exact (alike .addressable encoded).2 fun _ => ⟨rfl, rfl⟩
  · rw [run_replacePublicKey, Algorithm.readPublic_eq_ok_iff.2 ⟨accepted, rfl⟩, size]
    rfl
  · exact (alike .addressable [4]).2 fun _ => ⟨rfl, rfl⟩
  · rw [show key = (withoutParts .x25519Mlkem512).withParts _ from
      importedPair_eq List.length_replicate List.length_replicate]
    rfl
  · intro endAlike
    obtain ⟨same, -⟩ := (alike (.exhaustedFor ParameterName.publicKey) encoded).1 endAlike accepted
    rw [size] at same
    exact absurd same (by decide)

/-- A copy that cannot be had is reported under another name by an import than by a key that is given the
bytes as they are, and where only one of the two is refused the other succeeds. -/
theorem refused_copies_of_importedPair :
    let key := importedPair (List.replicate 32 9) (List.replicate 32 1)
    let encoded := publicKeyOf (List.replicate 32 8)
    let imported : ParameterSet := ⟨[⟨ParameterName.publicKey, .octets encoded, false⟩]⟩
    let withoutDirect : Memory := .exhaustedFor ParameterName.encodedPublicKey
    let withoutImport : Memory := .exhaustedFor ParameterName.publicKey
    key.Reachable ∧ key.algorithm.AcceptsPublic encoded ∧
      ((replacePublicKey withoutDirect encoded).run key).result =
        .error (.allocationFailure ParameterName.encodedPublicKey) ∧
      ((importParts withoutImport .publicHalf imported).run key).result =
        .error (.allocationFailure ParameterName.publicKey) ∧
      ((importParts withoutDirect .publicHalf imported).run key).result = .ok () := by
  intro key encoded imported withoutDirect withoutImport
  have accepted : key.algorithm.AcceptsPublic encoded :=
    importedPair_acceptsPublic List.length_replicate List.length_replicate List.length_replicate
  have size : encoded.length = 836 := length_publicKeyOf List.length_replicate
  have read : key.algorithm.readPublic encoded = .ok _ :=
    Algorithm.readPublic_eq_ok_iff.2 ⟨accepted, rfl⟩
  have given : imported.first? Parameter.Value.octets? ParameterName.publicKey = some encoded := rfl
  refine ⟨reachable_importedPair _ _, accepted, ?_, ?_, ?_⟩
  · rw [run_replacePublicKey_of_valid read, size]
    rfl
  · rw [run_importParts_of_valid given read, size]
    rfl
  · rw [run_importParts_of_valid given read, size]
    rfl

end Key

end HybridKeys
