/-
Module: HybridKeys.Proofs.InterruptedCalls
Purpose: Which of the calls that fail leave a key other than it was, and what they leave of it.
Main exports: Change.StopsHalfway, StopsHalfway.run, StopsHalfway.loses, unchanged_or_stopsHalfway,
  failed_call_unchanged_iff, interrupted_setting
-/
import HybridKeys.Proofs.ExportImport
import HybridKeys.Proofs.KeyGeneration

namespace HybridKeys

/-!
Of the calls that change a key all but one do everything that can fail before they write.  Setting
parameters is two changes in a row.  Each of them fails clean, and both values are read before either is
applied; but the second change copies its value only when its turn comes.  If there is no memory for that
copy, the first change has been made already: the key has a new public part, and its private part and its
scalar are gone.  That is the only way for a failed call to leave traces.
-/

namespace Key

variable {memory : Memory} {key after : Key}

/-! ### Two changes, and a failure between them -/

/-- A call that replaces the public part of a key and then finds no memory for the property query, with the
key that it leaves. -/
inductive Change.StopsHalfway (memory : Memory) (key : Key) : Change → Key → Prop where
  | setParameters {set : ParameterSet} {bytes : Bytes} {query : String}
      {classical : Option ClassicalKey}
      (encodedRead : set.readOctets ParameterName.encodedPublicKey = .ok (some bytes))
      (propertiesRead : set.readText ParameterName.properties = .ok (some query))
      (read : key.algorithm.readPublic bytes = .ok classical)
      (granted : memory.grants ParameterName.encodedPublicKey bytes.length = true)
      (refused : memory.grants "property query" query.utf8ByteSize = false) :
      StopsHalfway memory key (.setParameters set) (key.withParts ⟨some bytes, none, classical⟩)

/-- A first change that succeeds does nothing, or it replaces the public part. -/
theorem replaceIfGiven_eq_ok {encoded : Option Bytes} {u : Unit}
    (done : ((replaceIfGiven memory encoded).run key).result = .ok u) :
    (encoded = none ∧ ((replaceIfGiven memory encoded).run key).state = key) ∨
    ∃ bytes classical, encoded = some bytes ∧ key.algorithm.readPublic bytes = .ok classical ∧
      memory.grants ParameterName.encodedPublicKey bytes.length = true ∧
      ((replaceIfGiven memory encoded).run key).state =
        key.withParts ⟨some bytes, none, classical⟩ := by
  cases encoded with
  | none => exact .inl ⟨rfl, rfl⟩
  | some bytes =>
      rw [run_replaceIfGiven] at done ⊢
      cases read : key.algorithm.readPublic bytes with
      | error e =>
          rw [read] at done
          cases done
      | ok classical =>
          rw [read] at done
          dsimp only at done ⊢
          split at done
          case isTrue granted =>
            rw [if_pos granted]
            exact .inr ⟨bytes, classical, rfl, read, granted, rfl⟩
          case isFalse => cases done

/-- A property query is refused for want of memory only. -/
theorem queryIfGiven_eq_error {properties : Option String} {e : Error}
    (failed : ((queryIfGiven memory properties).run key).result = .error e) :
    ∃ query, properties = some query ∧
      memory.grants "property query" query.utf8ByteSize = false := by
  cases properties with
  | none => cases failed
  | some query =>
      rw [run_queryIfGiven] at failed
      split at failed
      case isTrue => cases failed
      case isFalse refused => exact ⟨query, rfl, Bool.eq_false_iff.2 refused⟩

namespace Change

variable {change : Change}

/-- The call fails, and this is what it leaves. -/
theorem StopsHalfway.run (stops : change.StopsHalfway memory key after) :
    ((change.action memory).run key).result = .error (.allocationFailure "property query") ∧
      ((change.action memory).run key).state = after := by
  cases stops with
  | @setParameters set bytes query classical encodedRead propertiesRead read granted refused =>
      have replaced : (replaceIfGiven memory (some bytes)).run key =
          ⟨.ok (), key.withParts ⟨some bytes, none, classical⟩, []⟩ := by
        rw [run_replaceIfGiven, read]
        dsimp only
        rw [if_pos granted]
      have unset (key : Key) : (queryIfGiven memory (some query)).run key =
          ⟨.error (.allocationFailure "property query"), key, []⟩ := by
        rw [run_queryIfGiven, if_neg (Bool.eq_false_iff.1 refused)]
      rw [action, run_setParameters_of_read encodedRead propertiesRead, Action.run_bind_ok replaced,
        unset]
      exact ⟨rfl, rfl⟩

/-- The key that it leaves has a public part and nothing private any more, and still has everything that is
not a part. -/
theorem StopsHalfway.loses (stops : change.StopsHalfway memory key after) :
    after.publicKey.isSome = true ∧ after.privateKey = none ∧
      (∀ handle, after.classical = some handle → handle.privateKey = none) ∧
      after = key.withParts after.parts := by
  cases stops with
  | setParameters _ _ read _ _ =>
      obtain ⟨-, rfl⟩ := Algorithm.readPublic_eq_ok_iff.1 read
      refine ⟨rfl, rfl, ?_, rfl⟩
      intro handle held
      obtain ⟨curve, -, rfl⟩ := Option.map_eq_some_iff.1 held
      rfl

/-- A call that fails leaves the key as it was, or it stops halfway. -/
theorem unchanged_or_stopsHalfway {e : Error}
    (failed : ((change.action memory).run key).result = .error e) :
    ((change.action memory).run key).state = key ∨
      change.StopsHalfway memory key ((change.action memory).run key).state := by
  cases change with
  | generate draw => exact .inl (failsClean_generate memory draw key e failed)
  | importParts selection set => exact .inl (failsClean_importParts memory selection set key e failed)
  | replacePublicKey bytes => exact .inl (failsClean_replacePublicKey memory bytes key e failed)
  | setPropertyQuery query => exact .inl (failsClean_setPropertyQuery memory query key e failed)
  | setParameters set =>
      simp only [action] at failed ⊢
      rcases setParameters_cases memory set key with
        ⟨_, unread⟩ | ⟨encoded, properties, encodedRead, propertiesRead⟩
      · rw [unread]
        exact .inl rfl
      · rw [run_setParameters_of_read encodedRead propertiesRead] at failed ⊢
        -- The first change fails clean, and so does the second after it.
        rcases Action.run_bind_cases (replaceIfGiven memory encoded)
          (fun _ => queryIfGiven memory properties) key with
          ⟨cause, refused, -, left⟩ | ⟨_, done, result, left⟩
        · exact .inl (left.trans (failsClean_replaceIfGiven encoded key cause refused))
        · have unset := result.symm.trans failed
          have kept := left.trans (failsClean_queryIfGiven properties _ e unset)
          rcases replaceIfGiven_eq_ok done with
            ⟨-, same⟩ | ⟨bytes, classical, rfl, read, granted, replaced⟩
          · exact .inl (kept.trans same)
          · obtain ⟨query, rfl, noMemory⟩ := queryIfGiven_eq_error unset
            have stops : StopsHalfway memory key (.setParameters set)
                (key.withParts ⟨some bytes, none, classical⟩) :=
              .setParameters encodedRead propertiesRead read granted noMemory
            dsimp only
            rw [kept, replaced]
            exact .inr stops

/-- A call that fails leaves the key as it was exactly when it does not stop halfway, or with that very
key. -/
theorem unchanged_iff {e : Error} (failed : ((change.action memory).run key).result = .error e) :
    ((change.action memory).run key).state = key ↔
      ∀ after, change.StopsHalfway memory key after → after = key := by
  constructor
  · intro unchanged after stops
    exact stops.run.2.symm.trans unchanged
  · intro harmless
    rcases unchanged_or_stopsHalfway failed with unchanged | stops
    · exact unchanged
    · exact harmless _ stops

end Change

end Key

/-- Whatever memory a call finds that changes a key: if it fails, it leaves the key as it was, the call
that stops halfway apart.  Behind the handle of an adapter it is the same, and an absent handle stays
absent.  A generation never touches what the host holds already. -/
theorem failed_call_unchanged_iff (memory : Memory) :
    (∀ (change : Key.Change) (key : Key) (e : Error),
      ((change.action memory).run key).result = .error e →
        (((change.action memory).run key).state = key ↔
          ∀ after, change.StopsHalfway memory key after → after = key)) ∧
    (∀ (adapter : Adapter) (change : Adapter.Change) (handle : Option Key) (e : Error),
      ((change.action adapter memory).run handle).result = .error e →
        (((change.action adapter memory).run handle).state = handle ↔
          ∀ key after, handle = some key → change.handedOn.StopsHalfway memory key after →
            after = key)) ∧
    ∀ (σ : Type) (held : σ) (adapter : Adapter) (generation : Option Generation) (draw : Draw),
      ((adapter.generate memory generation draw).run held).state = held := by
  refine ⟨?_, ?_, ?_⟩
  · intro change key e failed
    exact Key.Change.unchanged_iff failed
  · intro adapter change handle e failed
    cases handle with
    | none =>
        have absent : ((change.action adapter memory).run none).state = none := by
          cases change <;> rfl
        rw [absent]
        refine iff_of_true rfl ?_
        rintro _ _ ⟨⟩
    | some key =>
        obtain ⟨result, state⟩ := change.run_some adapter memory key
        rw [result] at failed
        rw [state, Option.some_inj, Key.Change.unchanged_iff failed]
        constructor
        · rintro harmless _ after ⟨⟩ stops
          exact harmless after stops
        · intro harmless after stops
          exact harmless key after rfl stops
  · intro σ held adapter generation draw
    exact adapter.reads_generate memory generation draw held

/-- A property query that comes with an empty public key is not taken over, and the hybrid key behind
the handle keeps its scalar. -/
theorem unchanged_of_empty_encoded_key :
    let adapter : Adapter :=
      ⟨{}, ⟨"x25519_mlkem512", "mlkem512", .ecxHybridKem⟩, .x25519Mlkem512⟩
    let key := Key.importedPair Algorithm.x25519Handle.publicKey (List.replicate 32 1)
    let set : ParameterSet :=
      ⟨[⟨ParameterName.encodedPublicKey, .octets [], false⟩,
        ⟨ParameterName.properties, .utf8 "fips=yes", false⟩]⟩
    let outcome := (adapter.setParameters .addressable set).run (some key)
    outcome.result = .error (.mismatchedLength ParameterName.encodedPublicKey 836 0) ∧
      outcome.state = some key := by
  intro adapter key set outcome
  have held : key = (Key.withoutParts .x25519Mlkem512).withParts _ :=
    Key.importedPair_eq Algorithm.made_x25519Handle.sound.isPublic.1 List.length_replicate
  clear_value key
  have refused : outcome.result =
      .error (.mismatchedLength ParameterName.encodedPublicKey 836 0) := by
    subst held
    rfl
  obtain ⟨-, adapted, -⟩ := failed_call_unchanged_iff .addressable
  have unchanged := adapted adapter (.setParameters set) (some key) _ refused
  refine ⟨refused, unchanged.2 ?_⟩
  rintro _ after ⟨⟩ stops
  -- What stops halfway fails with another error.
  have other := refused.symm.trans stops.run.1
  cases other

/-- A reachable hybrid key pair is given a valid public key together with a property query that there is no
memory for.  The call fails, and the private part and the scalar are gone. -/
theorem interrupted_setting :
    let key := Key.importedPair Algorithm.x25519Handle.publicKey (List.replicate 32 1)
    let encoded := Key.publicKeyOf (List.replicate 32 8)
    let set : ParameterSet :=
      ⟨[⟨ParameterName.encodedPublicKey, .octets encoded, false⟩,
        ⟨ParameterName.properties, .utf8 "fips=yes", false⟩]⟩
    let outcome := (Key.setParameters (.exhaustedFor "property query") set).run key
    key.Reachable ∧ outcome.result = .error (.allocationFailure "property query") ∧
      key.privateKey.isSome = true ∧ key.classical = some Algorithm.x25519Handle ∧
      outcome.state.publicKey = some encoded ∧ outcome.state.privateKey = none ∧
      outcome.state.classical = some ⟨.x25519, List.replicate 32 8, none⟩ := by
  intro key encoded set outcome
  have classicalLength : Algorithm.x25519Handle.publicKey.length = 32 :=
    Algorithm.made_x25519Handle.sound.isPublic.1
  have reachable : key.Reachable := Key.reachable_importedPair _ _
  have accepted : key.algorithm.AcceptsPublic encoded :=
    Key.importedPair_acceptsPublic classicalLength List.length_replicate List.length_replicate
  have held : key = (Key.withoutParts .x25519Mlkem512).withParts _ :=
    Key.importedPair_eq classicalLength List.length_replicate
  have granted : (Memory.exhaustedFor "property query").grants ParameterName.encodedPublicKey
      encoded.length = true :=
    Memory.exhaustedFor_grants_of_ne (by decide) _
  have read : key.algorithm.readPublic encoded = .ok _ :=
    Algorithm.readPublic_eq_ok_iff.2 ⟨accepted, rfl⟩
  have part : Composite.classicalPart 32 encoded = List.replicate 32 8 :=
    Composite.classicalPart_layout List.length_replicate _
  have scalarPart : Composite.classicalPart 32 (Key.privateKeyOf (List.replicate 32 1)) =
      List.replicate 32 1 :=
    Composite.classicalPart_layout List.length_replicate _
  clear_value key
  have stops : Key.Change.StopsHalfway (.exhaustedFor "property query") key (.setParameters set) _ :=
    .setParameters rfl rfl read granted rfl
  obtain ⟨failed, left⟩ := stops.run
  have handle : key.algorithm.publicHandle encoded =
      some ⟨.x25519, List.replicate 32 8, none⟩ := by
    rw [held, ← part]
    rfl
  refine ⟨reachable, failed, ?_, ?_, ?_, ?_, ?_⟩
  · rw [held]
    rfl
  · rw [held, ← scalarPart]
    rfl
  · exact congrArg Key.publicKey left
  · exact congrArg Key.privateKey left
  · exact (congrArg Key.classical left).trans handle

end HybridKeys
