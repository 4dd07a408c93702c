/-
Module: HybridKeys.Proofs.FilledRequests
Purpose: What a getter leaves of a request when it meets a part that the key does not hold.
Main exports: ParameterSet.Asks, ParameterSet.Shows, Key.Answer, Key.answers, getParameters_eq,
  Key.StopsAt, run_getParameters_of_available, run_getParameters_of_stopsAt, writeAll_eq_self_iff,
  failed_getter_unchanged_iff, failed_getter_keeps_filled_slot
-/
import HybridKeys.Proofs.KeyHistories

namespace HybridKeys

/-!
A getter goes through the names that it knows in an order of its own, whatever the order of the slots.
Where the request has a slot of the name, the getter fills the first one; where that slot asks for a part
that the key does not hold, it stops.  It does not look for missing parts before it fills anything, and it
takes nothing back.  So what a failed getter leaves is the request with the answers up to the missing
part, and that is the request itself only if it showed all of them before.
-/

/-! ### Slots -/

namespace ParameterSet

variable {set : ParameterSet} {name : String} {value : Parameter.Value}

/-- The request has a slot of the name. -/
def Asks (set : ParameterSet) (name : String) : Prop :=
  (set.find? name).isSome

instance : Decidable (set.Asks name) :=
  inferInstanceAs (Decidable ((set.find? name).isSome = true))

/-- The slot of the name, if there is one, holds the value, and a getter has written it. -/
def Shows (set : ParameterSet) (name : String) (value : Parameter.Value) : Prop :=
  ∀ slot, set.find? name = some slot → slot.value = value ∧ slot.modified = true

/-- Filling a slot adds none and takes none away. -/
theorem asks_fill_iff {asked : String} : (set.fill name value).Asks asked ↔ set.Asks asked := by
  by_cases same : asked = name
  · rw [Asks, same, find?_fill_self, Option.isSome_map, Asks]
  · rw [Asks, find?_fill_of_ne set value same, Asks]

/-- What a slot shows is not changed by filling one of another name. -/
theorem shows_fill_of_ne {asked : String} {said : Parameter.Value} (other : asked ≠ name) :
    (set.fill name value).Shows asked said ↔ set.Shows asked said := by
  rw [Shows, find?_fill_of_ne set value other, Shows]

/-- A filled slot shows what it was filled with. -/
theorem shows_fill_self : (set.fill name value).Shows name value := by
  intro slot found
  rw [find?_fill_self] at found
  obtain ⟨_, -, rfl⟩ := Option.map_eq_some_iff.1 found
  exact ⟨rfl, rfl⟩

/-- A request that shows the value already is not changed by filling it in. -/
theorem fill_eq_self (shown : set.Shows name value) : set.fill name value = set := by
  obtain ⟨parameters⟩ := set
  apply congrArg ParameterSet.mk
  induction parameters with
  | nil => rfl
  | cons slot rest inductionHypothesis =>
      by_cases same : slot.name = name
      · obtain ⟨holds, marked⟩ := shown slot (by simp [find?, same])
        rw [fillFirst, if_pos same, Parameter.fill, ← holds, ← marked]
      · have restShown : Shows ⟨rest⟩ name value := by
          intro found located
          exact shown found (by simpa [find?, same] using located)
        rw [fillFirst, if_neg same, inductionHypothesis restShown]

theorem shows_of_not_asks (absent : ¬ set.Asks name) : set.Shows name value := by
  intro slot found
  exact absurd (by rw [Asks, found, Option.isSome_some]) absent

end ParameterSet

namespace Key

/-! ### Answers -/

/-- What a key has to say under a name.  There is no value where the name is that of a part which the
key does not hold. -/
structure Answer where
  name : String
  value : Option Parameter.Value
deriving DecidableEq

/-- The answers of a key, in the order in which a getter gives them. -/
def answers (key : Key) : List Answer :=
  [⟨ParameterName.bits, some (.ofCount key.algorithm.primitive.strength)⟩,
    ⟨ParameterName.securityBits, some (.ofCount key.algorithm.primitive.strength)⟩,
    ⟨ParameterName.maxSize, some (.ofCount key.algorithm.maxOutputLength)⟩,
    ⟨ParameterName.encodedPublicKey, key.publicKey.map .octets⟩,
    ⟨ParameterName.publicKey, key.publicKey.map .octets⟩,
    ⟨ParameterName.privateKey, key.privateKey.map fun secret => .octets secret.bytes⟩]

/-- No name is answered twice. -/
theorem pairwise_answers (key : Key) :
    key.answers.Pairwise fun first second => first.name ≠ second.name := by
  have names : (key.answers.map Answer.name).Pairwise (· ≠ ·) := by
    simp only [answers, List.map]
    decide
  exact List.pairwise_map.1 names

/-- A request with an answer filled in, if the answer has a value. -/
def Answer.writtenTo (answer : Answer) (set : ParameterSet) : ParameterSet :=
  answer.value.elim set (set.fill answer.name)

/-- A request with answers filled in, one after another. -/
def writeAll (answers : List Answer) (set : ParameterSet) : ParameterSet :=
  answers.foldl (fun set answer => answer.writtenTo set) set

/-- Give an answer to a request that asks for it. -/
def Answer.give (answer : Answer) : Action ParameterSet Unit := do
  let set ← Action.get
  if set.Asks answer.name then
    let value ← Check.present answer.value answer.name
    fillSlot answer.name value

/-- Give answers one after another. -/
def giveAll : List Answer → Action ParameterSet Unit
  | [] => pure ()
  | answer :: rest => do
    answer.give
    giveAll rest

theorem Answer.asks_writtenTo_iff {answer : Answer} {set : ParameterSet} {name : String} :
    (answer.writtenTo set).Asks name ↔ set.Asks name := by
  rw [writtenTo]
  cases answer.value with
  | none => rfl
  | some value => exact ParameterSet.asks_fill_iff

/-- An answer with a value is given whether it is asked for or not: without a slot, filling does
nothing. -/
theorem Answer.run_give_of_available {answer : Answer} {set : ParameterSet}
    (available : set.Asks answer.name → answer.value.isSome) :
    answer.give.run set = ⟨.ok (), answer.writtenTo set, []⟩ := by
  rw [give, Action.run_get_bind, writtenTo]
  by_cases asked : set.Asks answer.name
  · obtain ⟨value, known⟩ := Option.isSome_iff_exists.1 (available asked)
    rw [if_pos asked, known, Check.present, Action.run_ok_bind, fillSlot, Action.run_update,
      Option.elim_some]
  · rw [if_neg asked, Action.run_pure]
    cases answer.value with
    | none => rfl
    | some value =>
        rw [Option.elim_some, ParameterSet.fill_eq_self (ParameterSet.shows_of_not_asks asked)]

/-- An answer without a value is refused to a request that asks for it. -/
theorem Answer.run_give_of_missing {set : ParameterSet} {name : String} (asked : set.Asks name) :
    (Answer.give ⟨name, none⟩).run set = ⟨.error (.nullKey name), set, []⟩ := by
  rw [give, Action.run_get_bind, if_pos asked, Check.present, Action.run_error_bind]

theorem fillSlot_eq_give (name : String) (value : Parameter.Value) :
    fillSlot name value = Answer.give ⟨name, some value⟩ := by
  funext set
  let answer : Answer := ⟨name, some value⟩
  have available : set.Asks answer.name → answer.value.isSome := fun _ => rfl
  exact (Answer.run_give_of_available available).symm

theorem fillPart_eq_give (name : String) (part : Option Bytes) :
    fillPart name part = Answer.give ⟨name, part.map .octets⟩ := by
  cases part <;> rfl

/-- A getter announces itself and gives the answers of the key. -/
theorem getParameters_eq (key : Key) :
    key.getParameters = (do
      Action.emit (.getParameters key.algorithm.name)
      giveAll key.answers) := by
  have privatePart : (key.privateKey.map Secret.bytes).map Parameter.Value.octets =
      key.privateKey.map fun secret => .octets secret.bytes := Option.map_map _ _ _
  rw [getParameters]
  simp only [fillSlot_eq_give, fillPart_eq_give, privatePart, answers, giveAll, Action.bind_pure]

/-! ### How far a getter comes -/

/-- The answers stop at a name that the request asks for and that has no value.  Every answer before it
has a value, or is not asked for. -/
structure StopsAt (answers : List Answer) (set : ParameterSet) (before : List Answer)
    (name : String) : Prop where
  position : ∃ after, answers = before ++ ⟨name, none⟩ :: after
  asked : set.Asks name
  available : ∀ answer ∈ before, set.Asks answer.name → answer.value.isSome

/-- Either every answer that is asked for has a value, or there is a first one that has none. -/
theorem available_or_stopsAt (answers : List Answer) (set : ParameterSet) :
    (∀ answer ∈ answers, set.Asks answer.name → answer.value.isSome) ∨
      ∃ before name, StopsAt answers set before name := by
  induction answers with
  | nil => exact .inl (by simp)
  | cons answer rest inductionHypothesis =>
      obtain ⟨name, value⟩ := answer
      by_cases available : set.Asks name → value.isSome
      · rcases inductionHypothesis with restAvailable | ⟨before, missing, stops⟩
        · exact .inl (List.forall_mem_cons.2 ⟨available, restAvailable⟩)
        · obtain ⟨⟨after, rfl⟩, asked, beforeAvailable⟩ := stops
          exact .inr ⟨⟨name, value⟩ :: before, missing, ⟨after, rfl⟩, asked,
            List.forall_mem_cons.2 ⟨available, beforeAvailable⟩⟩
      · obtain ⟨asked, absent⟩ := Classical.not_imp.1 available
        obtain rfl : value = none := by simpa using absent
        exact .inr ⟨[], name, ⟨rest, rfl⟩, asked, by simp⟩

/-- Answers that can all be given are all written. -/
theorem run_giveAll_of_available {answers : List Answer} {set : ParameterSet}
    (available : ∀ answer ∈ answers, set.Asks answer.name → answer.value.isSome) :
    (giveAll answers).run set = ⟨.ok (), writeAll answers set, []⟩ := by
  induction answers generalizing set with
  | nil => rfl
  | cons answer rest inductionHypothesis =>
      obtain ⟨first, others⟩ := List.forall_mem_cons.1 available
      have restAvailable : ∀ later ∈ rest,
          (answer.writtenTo set).Asks later.name → later.value.isSome := by
        intro later member asked
        exact others later member (Answer.asks_writtenTo_iff.1 asked)
      rw [giveAll, Action.run_bind_ok (Answer.run_give_of_available first),
        inductionHypothesis restAvailable]
      rfl

/-- Answers that stop are written up to the missing one, and stay so. -/
theorem run_giveAll_of_stopsAt {answers before : List Answer} {set : ParameterSet} {name : String}
    (stops : StopsAt answers set before name) :
    (giveAll answers).run set = ⟨.error (.nullKey name), writeAll before set, []⟩ := by
  obtain ⟨⟨after, rfl⟩, asked, available⟩ := stops
  -- Each write goes into the set that the next answer is given to; what is asked for stays the same.
  induction before generalizing set with
  | nil =>
      rw [List.nil_append, giveAll, Action.run_bind_error (Answer.run_give_of_missing asked)]
      rfl
  | cons answer rest inductionHypothesis =>
      obtain ⟨first, others⟩ := List.forall_mem_cons.1 available
      have restAvailable : ∀ later ∈ rest,
          (answer.writtenTo set).Asks later.name → later.value.isSome := by
        intro later member asked
        exact others later member (Answer.asks_writtenTo_iff.1 asked)
      rw [List.cons_append, giveAll, Action.run_bind_ok (Answer.run_give_of_available first),
        inductionHypothesis (Answer.asks_writtenTo_iff.2 asked) restAvailable]
      rfl

/-- The request shows every answer that has a value. -/
def ShowsAll (answers : List Answer) (set : ParameterSet) : Prop :=
  ∀ answer ∈ answers, ∀ value, answer.value = some value → set.Shows answer.name value

theorem Answer.shows_writtenTo_of_ne {answer : Answer} {set : ParameterSet} {name : String}
    {value : Parameter.Value} (other : name ≠ answer.name) :
    (answer.writtenTo set).Shows name value ↔ set.Shows name value := by
  rw [writtenTo]
  cases answer.value with
  | none => rfl
  | some written => exact ParameterSet.shows_fill_of_ne other

theorem shows_writeAll_of_ne {answers : List Answer} {set : ParameterSet} {name : String}
    {value : Parameter.Value} (others : ∀ answer ∈ answers, name ≠ answer.name) :
    (writeAll answers set).Shows name value ↔ set.Shows name value := by
  induction answers generalizing set with
  | nil => rfl
  | cons answer rest inductionHypothesis =>
      obtain ⟨first, later⟩ := List.forall_mem_cons.1 others
      exact (inductionHypothesis later).trans (Answer.shows_writtenTo_of_ne first)

/-- Once answers to different names are written, the request shows them all. -/
theorem showsAll_writeAll {answers : List Answer} {set : ParameterSet}
    (distinct : answers.Pairwise fun first second => first.name ≠ second.name) :
    ShowsAll answers (writeAll answers set) := by
  induction answers generalizing set with
  | nil => simp [ShowsAll]
  | cons answer rest inductionHypothesis =>
      obtain ⟨apart, restDistinct⟩ := List.pairwise_cons.1 distinct
      refine List.forall_mem_cons.2 ⟨?_, inductionHypothesis restDistinct⟩
      intro value known
      have written : (answer.writtenTo set).Shows answer.name value := by
        rw [Answer.writtenTo, known]
        exact ParameterSet.shows_fill_self
      exact (shows_writeAll_of_ne apart).2 written

/-- Answers to different names leave a request as it is exactly when it shows them already. -/
theorem writeAll_eq_self_iff {answers : List Answer} {set : ParameterSet}
    (distinct : answers.Pairwise fun first second => first.name ≠ second.name) :
    writeAll answers set = set ↔ ShowsAll answers set := by
  constructor
  · intro unchanged
    have shown : ShowsAll answers (writeAll answers set) := showsAll_writeAll distinct
    rwa [unchanged] at shown
  · intro shown
    clear distinct
    induction answers with
    | nil => rfl
    | cons answer rest inductionHypothesis =>
        obtain ⟨first, others⟩ := List.forall_mem_cons.1 shown
        have unchanged : answer.writtenTo set = set := by
          rw [Answer.writtenTo]
          cases known : answer.value with
          | none => rfl
          | some value => exact ParameterSet.fill_eq_self (first value known)
        have step : writeAll (answer :: rest) set = writeAll rest (answer.writtenTo set) := rfl
        rw [step, unchanged, inductionHypothesis others]

/-- A getter whose answers can all be given writes them all. -/
theorem run_getParameters_of_available {key : Key} {set : ParameterSet}
    (available : ∀ answer ∈ key.answers, set.Asks answer.name → answer.value.isSome) :
    key.getParameters.run set =
      ⟨.ok (), writeAll key.answers set, [.getParameters key.algorithm.name]⟩ := by
  rw [getParameters_eq, Action.run_emit_bind, run_giveAll_of_available available]

/-- A getter whose answers stop writes those before the missing one. -/
theorem run_getParameters_of_stopsAt {key : Key} {set : ParameterSet} {before : List Answer}
    {name : String} (stops : StopsAt key.answers set before name) :
    key.getParameters.run set =
      ⟨.error (.nullKey name), writeAll before set, [.getParameters key.algorithm.name]⟩ := by
  rw [getParameters_eq, Action.run_emit_bind, run_giveAll_of_stopsAt stops]

/-- A getter that fails does so at the first name that is asked for and has no value, and leaves the
request with the answers before it. -/
theorem stopsAt_of_failed_getter {key : Key} {set : ParameterSet} {e : Error}
    (failed : (key.getParameters.run set).result = .error e) :
    ∃ before name, StopsAt key.answers set before name ∧ e = .nullKey name ∧
      (key.getParameters.run set).state = writeAll before set := by
  rcases available_or_stopsAt key.answers set with available | ⟨before, name, stops⟩
  · rw [run_getParameters_of_available available] at failed
    cases failed
  · rw [run_getParameters_of_stopsAt stops] at failed ⊢
    cases failed
    exact ⟨before, name, stops, rfl, rfl⟩

/-- A getter that fails, on a key itself or behind the handle of an adapter, leaves the request with the
answers before the first missing part.  That is the request as it was exactly when it showed all of them
already.  An absent handle is refused before anything is filled. -/
theorem failed_getter_unchanged_iff (key : Key) (adapter : Adapter) (set : ParameterSet) :
    (∀ e, (key.getParameters.run set).result = .error e →
      ∃ before name, StopsAt key.answers set before name ∧ e = .nullKey name ∧
        (key.getParameters.run set).state = writeAll before set ∧
        ((key.getParameters.run set).state = set ↔ ShowsAll before set)) ∧
    (adapter.getParameters (some key)).run set = key.getParameters.run set ∧
    (adapter.getParameters none).run set = ⟨.error (.nullKey "get params"), set, []⟩ := by
  refine ⟨?_, ?_, ?_⟩
  · intro e failed
    obtain ⟨before, name, stops, missing, left⟩ := stopsAt_of_failed_getter failed
    refine ⟨before, name, stops, missing, left, ?_⟩
    rw [left]
    obtain ⟨after, position⟩ := stops.position
    have distinct := pairwise_answers key
    rw [position] at distinct
    exact writeAll_eq_self_iff (List.pairwise_append.1 distinct).1
  · rw [Adapter.getParameters, Check.present, Action.run_ok_bind]
  · rw [Adapter.getParameters, Check.present, Action.run_error_bind]

/-! ### A slot that stays filled -/

/-- A request for the strength of a key and for its public part. -/
def strengthAndPublicKey : ParameterSet :=
  .request [ParameterName.bits, ParameterName.publicKey]

/-- The same request with the strength filled in. -/
def strengthFilled : ParameterSet :=
  ⟨[⟨ParameterName.bits, .int 128, true⟩, .request ParameterName.publicKey]⟩

/-- An empty key refuses the request, for it has no public part, and leaves the strength in it. -/
theorem failed_getter_keeps_filled_slot :
    let key := withoutParts .x25519Mlkem512
    let outcome := key.getParameters.run strengthAndPublicKey
    key.Reachable ∧ outcome.result = .error (.nullKey ParameterName.publicKey) ∧
      outcome.state = strengthFilled ∧ outcome.state ≠ strengthAndPublicKey := by
  intro key outcome
  have left : outcome.state = strengthFilled := rfl
  refine ⟨reachable_x25519Mlkem512, rfl, left, ?_⟩
  rw [left]
  decide

/-- When it is asked again with what it left, the empty key refuses that too, and changes nothing. -/
theorem failed_getter_unchanged_when_filled :
    let key := withoutParts .x25519Mlkem512
    let outcome := key.getParameters.run strengthFilled
    outcome.result = .error (.nullKey ParameterName.publicKey) ∧
      outcome.state = strengthFilled := by
  intro key outcome
  have refused : outcome.result = .error (.nullKey ParameterName.publicKey) := rfl
  obtain ⟨before, name, stops, -, -, unchanged⟩ :=
    (failed_getter_unchanged_iff key default strengthFilled).1 _ refused
  refine ⟨refused, unchanged.2 ?_⟩
  have known : ∀ answer ∈ key.answers, answer.value.isSome →
      answer = ⟨ParameterName.bits, some (.int 128)⟩ ∨ ¬ strengthFilled.Asks answer.name := by
    decide
  intro answer member value given
  obtain ⟨after, position⟩ := stops.position
  have listed : answer ∈ key.answers := by
    rw [position]
    exact List.mem_append_left _ member
  rcases known answer listed (by rw [given, Option.isSome_some]) with rfl | notAsked
  · cases given
    rintro _ ⟨⟩
    exact ⟨rfl, rfl⟩
  · exact ParameterSet.shows_of_not_asks notAsked

end Key

end HybridKeys
