/-
Module: HybridKeys.Proofs.AnsweredRequests
Purpose: When a getter answers a request, and what the request is afterwards, slot by slot.
Main exports: Key.part?, Key.missing, result_getParameters, Key.Answered, answered_writeAll,
  rearranged_getParameters, exists_counts_answers, getParameters_outcome
-/
import HybridKeys.Proofs.ExportImport
import HybridKeys.Proofs.FilledRequests
import HybridKeys.Proofs.Regeneration
import HybridKeys.Proofs.SlotPositions

namespace HybridKeys

/-!
A getter makes six fills, one for each name that it knows, and no two under one name.  Each goes to the
first slot of its name, and leaves all others alone.  So what a getter leaves can be told for each slot by
itself: it holds the answer if it is the first of a name that the key answers, and otherwise what it held
before.  The names that the key does not know, the later slots of one name, and what was in the slots
before do not come into it, and neither does the order of the fills.
-/

/-- A count that fits into an integer value is written as it is. -/
theorem Parameter.Value.exists_int_eq_ofCount {count : ℕ}
    (fits : count ≤ Int64.maxValue.toInt.toNat) :
    ∃ number : Int64, ofCount count = .int number ∧ number.toInt = count := by
  refine ⟨Int64.ofNat count, ?_, ?_⟩
  · rw [ofCount, if_pos fits]
  · have bound : Int64.maxValue.toInt.toNat = 2 ^ 63 - 1 := by decide
    exact Int64.toInt_ofNat_of_lt (by omega)

/-- Declared lengths of outputs are far below the largest integer. -/
theorem Registry.output_lt {entry : Entry} (registered : entry ∈ entries) :
    entry.primitive.maxOutputLength < 2 ^ 16 := by
  revert entry
  decide

namespace ParameterSet

variable {set other : ParameterSet} {name : String} {i : ℕ}

theorem asks_iff_mem_names : set.Asks name ↔ name ∈ set.names := by
  simp [Asks, find?, names]

theorem FirstAt.asks (first : set.FirstAt i name) : set.Asks name :=
  asks_iff_mem_names.2 (List.mem_of_getElem? first.1)

/-- The first slot of a name has that name. -/
theorem FirstAt.name_of_getElem? {slot : Parameter} (first : set.FirstAt i name)
    (found : set.parameters[i]? = some slot) : slot.name = name := by
  have named := first.1
  rw [names, List.getElem?_map, found] at named
  exact Option.some.inj named

theorem Rearranged.asks_iff (same : set.Rearranged other) : set.Asks name ↔ other.Asks name := by
  rw [Asks, Asks, same.find?_eq]

end ParameterSet

namespace Key

variable {key : Key} {answers before : List Answer} {set other : ParameterSet} {name : String} {i : ℕ}

/-! ### Missing parts -/

/-- The key part that goes by a name, if the name is that of one and the key holds it. -/
def part? (key : Key) (name : String) : Option Bytes :=
  if name = ParameterName.encodedPublicKey ∨ name = ParameterName.publicKey then key.publicKey
  else if name = ParameterName.privateKey then key.privateKey.map Secret.bytes
  else none

@[simp] theorem part?_encodedPublicKey (key : Key) :
    key.part? ParameterName.encodedPublicKey = key.publicKey :=
  rfl

@[simp] theorem part?_publicKey (key : Key) : key.part? ParameterName.publicKey = key.publicKey :=
  rfl

@[simp] theorem part?_privateKey (key : Key) :
    key.part? ParameterName.privateKey = key.privateKey.map Secret.bytes :=
  rfl

/-- The names of parts that a request asks for and the key does not hold, in the order in which a getter
comes to them. -/
def missing (key : Key) (set : ParameterSet) : List String :=
  [ParameterName.encodedPublicKey, ParameterName.publicKey, ParameterName.privateKey].filter
    fun name => set.Asks name ∧ key.part? name = none

/-- The names of the answers that a request asks for and that have no value. -/
def unanswered (answers : List Answer) (set : ParameterSet) : List String :=
  (answers.filter fun answer => set.Asks answer.name ∧ answer.value = none).map Answer.name

theorem unanswered_append (first second : List Answer) (set : ParameterSet) :
    unanswered (first ++ second) set = unanswered first set ++ unanswered second set := by
  simp only [unanswered, List.filter_append, List.map_append]

theorem unanswered_of_available
    (available : ∀ answer ∈ answers, set.Asks answer.name → answer.value.isSome) :
    unanswered answers set = [] := by
  rw [unanswered, List.map_eq_nil_iff, List.filter_eq_nil_iff]
  intro answer member kept
  obtain ⟨asked, absent⟩ := of_decide_eq_true kept
  have present := available answer member asked
  rw [absent] at present
  cases present

theorem head?_unanswered_of_stopsAt (stops : StopsAt answers set before name) :
    (unanswered answers set).head? = some name := by
  obtain ⟨⟨after, rfl⟩, asked, available⟩ := stops
  rw [unanswered_append, unanswered_of_available available]
  simp [unanswered, asked]

/-- A getter answers with counts, which are always there, and then with the parts. -/
theorem answers_eq_append (key : Key) :
    ∃ counts : List Answer, (∀ answer ∈ counts, answer.value.isSome) ∧
      key.answers = counts ++
        [ParameterName.encodedPublicKey, ParameterName.publicKey, ParameterName.privateKey].map
          fun name => ⟨name, (key.part? name).map .octets⟩ := by
  refine ⟨key.answers.take 3, ?_, ?_⟩
  · simp [answers]
  · simp [answers, Function.comp_def]

/-- Only a part can be without an answer. -/
theorem missing_eq_unanswered (key : Key) (set : ParameterSet) :
    key.missing set = unanswered key.answers set := by
  obtain ⟨counts, present, listed⟩ := answers_eq_append key
  have counted : unanswered counts set = [] :=
    unanswered_of_available fun answer member _ => present answer member
  rw [listed, unanswered_append, counted, List.nil_append, missing, unanswered, List.filter_map,
    List.map_map]
  simp [Function.comp_def]

/-- A getter fails exactly when a part is asked for that the key does not hold, and names the first such
part. -/
theorem result_getParameters (key : Key) (set : ParameterSet) :
    (key.getParameters.run set).result =
      (key.missing set).head?.elim (.ok ()) fun name => .error (.nullKey name) := by
  rw [missing_eq_unanswered]
  rcases available_or_stopsAt key.answers set with available | ⟨before, name, stops⟩
  · rw [run_getParameters_of_available available, unanswered_of_available available]
    rfl
  · rw [run_getParameters_of_stopsAt stops, head?_unanswered_of_stopsAt stops]
    rfl

theorem available_of_answered (done : (key.getParameters.run set).result = .ok ()) :
    ∀ answer ∈ key.answers, set.Asks answer.name → answer.value.isSome := by
  rcases available_or_stopsAt key.answers set with available | ⟨before, name, stops⟩
  · exact available
  · rw [run_getParameters_of_stopsAt stops] at done
    cases done

/-! ### The request afterwards -/

section WrittenTo

variable (answer : Answer)

theorem Answer.names_writtenTo : (answer.writtenTo set).names = set.names := by
  rw [writtenTo]
  cases answer.value with
  | none => rfl
  | some value => exact ParameterSet.names_fill set answer.name value

theorem Answer.firstAt_writtenTo_iff :
    (answer.writtenTo set).FirstAt i name ↔ set.FirstAt i name := by
  rw [ParameterSet.FirstAt, answer.names_writtenTo, ParameterSet.FirstAt]

theorem Answer.getElem?_writtenTo_of_not_firstAt (elsewhere : ¬ set.FirstAt i answer.name) :
    (answer.writtenTo set).parameters[i]? = set.parameters[i]? := by
  rw [writtenTo]
  cases answer.value with
  | none => rfl
  | some value => exact ParameterSet.getElem?_fill_of_not_firstAt elsewhere

theorem Answer.rearranged_writtenTo (same : set.Rearranged other) :
    (answer.writtenTo set).Rearranged (answer.writtenTo other) := by
  rw [writtenTo, writtenTo]
  cases answer.value with
  | none => exact same
  | some value => exact same.fill answer.name value

end WrittenTo

theorem asks_writeAll_iff : (writeAll answers set).Asks name ↔ set.Asks name := by
  induction answers generalizing set with
  | nil => rfl
  | cons answer rest inductionHypothesis =>
      exact inductionHypothesis.trans Answer.asks_writtenTo_iff

theorem names_writeAll (answers : List Answer) (set : ParameterSet) :
    (writeAll answers set).names = set.names := by
  induction answers generalizing set with
  | nil => rfl
  | cons answer rest inductionHypothesis =>
      exact (inductionHypothesis _).trans answer.names_writtenTo

/-- Answers whose names have their first slots elsewhere leave a slot alone. -/
theorem getElem?_writeAll_of_not_firstAt
    (elsewhere : ∀ answer ∈ answers, ¬ set.FirstAt i answer.name) :
    (writeAll answers set).parameters[i]? = set.parameters[i]? := by
  induction answers generalizing set with
  | nil => rfl
  | cons answer rest inductionHypothesis =>
      obtain ⟨first, others⟩ := List.forall_mem_cons.1 elsewhere
      have othersLater : ∀ later ∈ rest, ¬ (answer.writtenTo set).FirstAt i later.name := by
        intro later member
        rw [answer.firstAt_writtenTo_iff]
        exact others later member
      exact (inductionHypothesis othersLater).trans (answer.getElem?_writtenTo_of_not_firstAt first)

/-- Of answers to different names, the one whose name has its first slot at a position is what is written
there. -/
theorem getElem?_writeAll_of_firstAt {answer : Answer} {value : Parameter.Value}
    (distinct : answers.Pairwise fun first second => first.name ≠ second.name)
    (member : answer ∈ answers) (known : answer.value = some value)
    (first : set.FirstAt i answer.name) :
    (writeAll answers set).parameters[i]? = set.parameters[i]?.map (·.fill value) := by
  induction answers generalizing set with
  | nil => cases member
  | cons head rest inductionHypothesis =>
      obtain ⟨apart, restDistinct⟩ := List.pairwise_cons.1 distinct
      change (writeAll rest (head.writtenTo set)).parameters[i]? = _
      rcases List.mem_cons.1 member with rfl | later
      · have elsewhere : ∀ later ∈ rest, ¬ (answer.writtenTo set).FirstAt i later.name := by
          intro later behind here
          exact apart later behind (first.name_eq (answer.firstAt_writtenTo_iff.1 here))
        rw [getElem?_writeAll_of_not_firstAt elsewhere, Answer.writtenTo, known, Option.elim_some,
          ParameterSet.getElem?_fill_of_firstAt first]
      · have elsewhere : ¬ set.FirstAt i head.name := by
          intro here
          exact apart answer later (here.name_eq first)
        rw [inductionHypothesis restDistinct later (head.firstAt_writtenTo_iff.2 first),
          head.getElem?_writtenTo_of_not_firstAt elsewhere]

/-- A request with answers filled in.  No slot is moved or renamed.  The first slot of each name that is
answered holds the answer, with its mark set.  Every other slot is as it was. -/
structure Answered (answers : List Answer) (set after : ParameterSet) : Prop where
  names : after.names = set.names
  first : ∀ answer ∈ answers, ∀ i slot, set.FirstAt i answer.name →
    set.parameters[i]? = some slot →
      ∃ value, answer.value = some value ∧
        after.parameters[i]? = some { name := answer.name, value := value, modified := true }
  others : ∀ i, (∀ answer ∈ answers, ¬ set.FirstAt i answer.name) →
    after.parameters[i]? = set.parameters[i]?

theorem answered_writeAll
    (distinct : answers.Pairwise fun first second => first.name ≠ second.name)
    (available : ∀ answer ∈ answers, set.Asks answer.name → answer.value.isSome) :
    Answered answers set (writeAll answers set) where
  names := names_writeAll answers set
  first := by
    intro answer member i slot first found
    obtain ⟨value, known⟩ := Option.isSome_iff_exists.1 (available answer member first.asks)
    refine ⟨value, known, ?_⟩
    rw [getElem?_writeAll_of_firstAt distinct member known first, found, Option.map_some,
      Parameter.fill, first.name_of_getElem? found]
  others := by
    intro i elsewhere
    exact getElem?_writeAll_of_not_firstAt elsewhere

/-! ### What does not matter -/

theorem rearranged_writeAll (same : set.Rearranged other) (answers : List Answer) :
    (writeAll answers set).Rearranged (writeAll answers other) := by
  induction answers generalizing set other with
  | nil => exact same
  | cons answer rest inductionHypothesis => exact inductionHypothesis (answer.rearranged_writtenTo same)

/-- A getter does to every slot the same, however the slots of different names are ordered. -/
theorem rearranged_getParameters (key : Key) (same : set.Rearranged other) :
    (key.getParameters.run set).result = (key.getParameters.run other).result ∧
      (key.getParameters.run set).state.Rearranged (key.getParameters.run other).state := by
  rcases available_or_stopsAt key.answers set with available | ⟨before, name, stops⟩
  · have also : ∀ answer ∈ key.answers, other.Asks answer.name → answer.value.isSome := by
      intro answer member asked
      exact available answer member (same.asks_iff.2 asked)
    rw [run_getParameters_of_available available, run_getParameters_of_available also]
    exact ⟨rfl, rearranged_writeAll same key.answers⟩
  · obtain ⟨position, asked, available⟩ := stops
    have also : StopsAt key.answers other before name := by
      refine ⟨position, same.asks_iff.1 asked, ?_⟩
      intro answer member asked
      exact available answer member (same.asks_iff.2 asked)
    rw [run_getParameters_of_stopsAt ⟨position, asked, available⟩, run_getParameters_of_stopsAt also]
    exact ⟨rfl, rearranged_writeAll same before⟩

/-- To an answered request a getter gives the same answers again. -/
theorem run_getParameters_again (done : (key.getParameters.run set).result = .ok ()) :
    key.getParameters.run (key.getParameters.run set).state = key.getParameters.run set := by
  have available := available_of_answered done
  have again : ∀ answer ∈ key.answers, (writeAll key.answers set).Asks answer.name →
      answer.value.isSome := by
    intro answer member asked
    exact available answer member (asks_writeAll_iff.1 asked)
  have shown : writeAll key.answers (writeAll key.answers set) = writeAll key.answers set :=
    (writeAll_eq_self_iff (pairwise_answers key)).2 (showsAll_writeAll (pairwise_answers key))
  rw [run_getParameters_of_available available, run_getParameters_of_available again, shown]

/-! ### The outcome -/

/-- The counts that a key answers with are written as they are. -/
theorem exists_counts_answers (reachable : key.Reachable) :
    ∃ strength size : Int64, strength.toInt = key.algorithm.primitive.strength ∧
      size.toInt = key.algorithm.maxOutputLength ∧
      key.answers =
        [⟨ParameterName.bits, some (.int strength)⟩,
          ⟨ParameterName.securityBits, some (.int strength)⟩,
          ⟨ParameterName.maxSize, some (.int size)⟩,
          ⟨ParameterName.encodedPublicKey, key.publicKey.map .octets⟩,
          ⟨ParameterName.publicKey, key.publicKey.map .octets⟩,
          ⟨ParameterName.privateKey, key.privateKey.map fun secret => .octets secret.bytes⟩] := by
  have limit : Int64.maxValue.toInt.toNat = 2 ^ 63 - 1 := by decide
  have strengthFits : key.algorithm.primitive.strength ≤ Int64.maxValue.toInt.toNat := by
    rw [limit, Primitive.strength]
    split_ifs <;> omega
  obtain ⟨seed, madeWith⟩ := reachable_iff_exists_madeWith.1 reachable
  have declared : key.algorithm.primitive.maxOutputLength < 2 ^ 16 :=
    Registry.output_lt madeWith.identity.registered
  have sizeFits : key.algorithm.maxOutputLength ≤ Int64.maxValue.toInt.toNat := by
    rw [limit]
    cases hybrid : key.algorithm.curve with
    | none =>
        rw [Algorithm.maxOutputLength_of_plain hybrid]
        exact (declared.trans (by decide)).le
    | some curve =>
        have nameable := Curve.publicKeyLength_lt curve
        simp only [Algorithm.maxOutputLength, hybrid]
        simp only [Composite.length, Composite.headerLength, UInt32.size] at nameable ⊢
        omega
  obtain ⟨strength, strengthWritten, strengthValue⟩ := Parameter.Value.exists_int_eq_ofCount strengthFits
  obtain ⟨size, sizeWritten, sizeValue⟩ := Parameter.Value.exists_int_eq_ofCount sizeFits
  exact ⟨strength, size, strengthValue, sizeValue, by rw [answers, strengthWritten, sizeWritten]⟩

/-- A getter succeeds exactly when the request asks for no part that the key does not hold, and otherwise
names the first such part.  When it succeeds, the first slots of the six names hold what the key has to
say, every other slot is as it was, and to ask again changes nothing.  In which order slots of different
names stand makes no difference. -/
theorem getParameters_outcome (reachable : key.Reachable) (set : ParameterSet) :
    let outcome := key.getParameters.run set
    outcome.result =
        (key.missing set).head?.elim (.ok ()) (fun name => .error (.nullKey name)) ∧
      (outcome.result = .ok () → ∃ strength size : Int64,
        strength.toInt = key.algorithm.primitive.strength ∧
        size.toInt = key.algorithm.maxOutputLength ∧
        Answered
          [⟨ParameterName.bits, some (.int strength)⟩,
            ⟨ParameterName.securityBits, some (.int strength)⟩,
            ⟨ParameterName.maxSize, some (.int size)⟩,
            ⟨ParameterName.encodedPublicKey, key.publicKey.map .octets⟩,
            ⟨ParameterName.publicKey, key.publicKey.map .octets⟩,
            ⟨ParameterName.privateKey, key.privateKey.map fun secret => .octets secret.bytes⟩]
          set outcome.state ∧
        key.getParameters.run outcome.state = outcome) ∧
      ∀ other, set.Rearranged other →
        outcome.result = (key.getParameters.run other).result ∧
          outcome.state.Rearranged (key.getParameters.run other).state := by
  refine ⟨result_getParameters key set, ?_, fun other same => rearranged_getParameters key same⟩
  intro done
  obtain ⟨strength, size, strengthValue, sizeValue, listed⟩ := exists_counts_answers reachable
  have available := available_of_answered done
  have answered := answered_writeAll (pairwise_answers key) available
  refine ⟨strength, size, strengthValue, sizeValue, ?_, run_getParameters_again done⟩
  rw [← listed, run_getParameters_of_available available]
  exact answered

/-- A hybrid key pair is asked for its private part, twice.  The first slot held a text before and is
filled; the second one, and one that the key does not know, are left alone.  A key without parts that is
asked for its public part as well misses that one first. -/
theorem getParameters_of_importedPair :
    let key := importedPair (List.replicate 32 9) (List.replicate 32 1)
    let request : List Parameter :=
      [⟨ParameterName.privateKey, .utf8 "old", false⟩, ⟨"seed", .int 7, false⟩,
        .request ParameterName.privateKey]
    let outcome := key.getParameters.run ⟨request⟩
    outcome.result = .ok () ∧
      outcome.state.parameters[0]? = some ⟨ParameterName.privateKey,
        .octets (privateKeyOf (List.replicate 32 1)), true⟩ ∧
      outcome.state.parameters[1]? = some ⟨"seed", .int 7, false⟩ ∧
      outcome.state.parameters[2]? = some (.request ParameterName.privateKey) ∧
      key.getParameters.run outcome.state = outcome ∧
      ((withoutParts .x25519Mlkem512).getParameters.run
        ⟨request ++ [.request ParameterName.publicKey]⟩).result =
          .error (.nullKey ParameterName.publicKey) := by
  intro key request outcome
  have held : key = (withoutParts .x25519Mlkem512).withParts _ :=
    importedPair_eq List.length_replicate List.length_replicate
  have privateHeld : key.privateKey = some ⟨privateKeyOf (List.replicate 32 1)⟩ := by rw [held]; rfl
  have reachable : key.Reachable := reachable_importedPair _ _
  obtain ⟨result, leaves, -⟩ := getParameters_outcome reachable ⟨request⟩
  have nothingMissing : key.missing ⟨request⟩ = [] := by rw [held]; rfl
  have done : outcome.result = .ok () := by rw [result, nothingMissing]; rfl
  obtain ⟨strength, size, -, -, answered, again⟩ := leaves done
  rw [privateHeld] at answered
  obtain ⟨_, ⟨⟩, privateSlot⟩ := answered.first
    ⟨ParameterName.privateKey, some (.octets (privateKeyOf (List.replicate 32 1)))⟩ (by simp) 0 _
    (by decide) rfl
  have notFirst : ∀ i ∈ [1, 2], ∀ name ∈ [ParameterName.bits, ParameterName.securityBits,
      ParameterName.maxSize, ParameterName.encodedPublicKey, ParameterName.publicKey,
      ParameterName.privateKey], ¬ ParameterSet.FirstAt ⟨request⟩ i name := by
    decide
  refine ⟨done, privateSlot, ?_, ?_, again, rfl⟩
  · exact answered.others 1 (by simpa using notFirst 1 (by simp))
  · exact answered.others 2 (by simpa using notFirst 2 (by simp))

end Key

end HybridKeys
