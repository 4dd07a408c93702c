/-
Module: HybridKeys.Action
Purpose: Operations that change a state, may fail, and announce themselves.
Main exports: Outcome, Action, run, emit, get, update, exec, mapError, onHandle
-/
import HybridKeys.Error
import HybridKeys.Event

namespace HybridKeys

/-!
An operation that fails does not take back what it did before the failure: the outcome always has a
state, and the events up to the point where the operation ended.  So "a failure changes nothing" is
a property to be shown of an operation, not a gift of its type.
-/

/-- How an operation ended. -/
structure Outcome (σ α : Type) where
  /-- The answer, or why there is none. -/
  result : Except Error α
  /-- The state that the operation left behind, whether it failed or not. -/
  state : σ
  events : List Event

def Action (σ α : Type) : Type := σ → Outcome σ α

namespace Action

variable {σ τ α β : Type}

def run (action : Action σ α) (state : σ) : Outcome σ α :=
  action state

protected def pure (value : α) : Action σ α :=
  fun state => ⟨.ok value, state, []⟩

/-- Do one operation and, unless it failed, go on from its answer. -/
protected def bind (first : Action σ α) (next : α → Action σ β) : Action σ β :=
  fun state =>
    match first.run state with
    | ⟨.error e, after, events⟩ => ⟨.error e, after, events⟩
    | ⟨.ok value, after, events⟩ =>
      let second := (next value).run after
      ⟨second.result, second.state, events ++ second.events⟩

instance : Monad (Action σ) where
  pure := Action.pure
  bind := Action.bind

def fail (e : Error) : Action σ α :=
  fun state => ⟨.error e, state, []⟩

/-- A result as an operation that touches nothing. -/
def ofExcept (result : Except Error α) : Action σ α :=
  fun state => ⟨result, state, []⟩

instance : MonadLift (Except Error) (Action σ) where
  monadLift := ofExcept

def emit (event : Event) : Action σ Unit :=
  fun state => ⟨.ok (), state, [event]⟩

def get : Action σ σ :=
  fun state => ⟨.ok state, state, []⟩

def update (change : σ → σ) : Action σ Unit :=
  fun state => ⟨.ok (), change state, []⟩

/-- Change the error of an operation that fails. -/
def mapError (change : Error → Error) (action : Action σ α) : Action σ α :=
  fun state =>
    let outcome := action.run state
    { outcome with result := outcome.result.mapError change }

/-- Let an operation work on a state of its own.  What it leaves is handed out beside its answer, and
is lost if it fails. -/
def within (state : τ) (action : Action τ α) : Action σ (α × τ) :=
  fun outer =>
    let outcome := action.run state
    ⟨outcome.result.map (·, outcome.state), outer, outcome.events⟩

/-- An operation on what a handle holds.  An absent handle is an error in the given context, and
nothing is announced. -/
def onHandle (context : String) (action : Action σ α) : Action (Option σ) α :=
  fun handle =>
    match handle with
    | none => ⟨.error (.nullKey context), none, []⟩
    | some state =>
      let outcome := action.run state
      ⟨outcome.result, some outcome.state, outcome.events⟩

/-- The state that a successful operation leaves. -/
def exec (action : Action σ Unit) (state : σ) : Except Error σ :=
  let outcome := action.run state
  outcome.result.map fun _ => outcome.state

/-! ### What the parts do when they are run -/

@[simp] theorem run_pure (value : α) (state : σ) :
    (pure value : Action σ α).run state = ⟨.ok value, state, []⟩ := rfl

@[simp] theorem run_fail (e : Error) (state : σ) :
    (fail e : Action σ α).run state = ⟨.error e, state, []⟩ := rfl

@[simp] theorem run_ofExcept (result : Except Error α) (state : σ) :
    (ofExcept result : Action σ α).run state = ⟨result, state, []⟩ := rfl

@[simp] theorem run_liftM (result : Except Error α) (state : σ) :
    (liftM result : Action σ α).run state = ⟨result, state, []⟩ := rfl

@[simp] theorem run_emit (event : Event) (state : σ) :
    (emit event).run state = ⟨.ok (), state, [event]⟩ := rfl

@[simp] theorem run_get (state : σ) : (get : Action σ σ).run state = ⟨.ok state, state, []⟩ := rfl

@[simp] theorem run_update (change : σ → σ) (state : σ) :
    (update change).run state = ⟨.ok (), change state, []⟩ := rfl

/-- A first operation that succeeds hands its answer, its state and its events on. -/
theorem run_bind_ok {first : Action σ α} {next : α → Action σ β} {state after : σ} {value : α}
    {events : List Event} (done : first.run state = ⟨.ok value, after, events⟩) :
    (first >>= next).run state =
      ⟨((next value).run after).result, ((next value).run after).state,
        events ++ ((next value).run after).events⟩ := by
  simp only [bind, run, Action.bind] at done ⊢
  rw [done]

/-- A first operation that fails ends the whole. -/
theorem run_bind_error {first : Action σ α} {next : α → Action σ β} {state after : σ} {e : Error}
    {events : List Event} (failed : first.run state = ⟨.error e, after, events⟩) :
    (first >>= next).run state = ⟨.error e, after, events⟩ := by
  simp only [bind, run, Action.bind] at failed ⊢
  rw [failed]

/-- An answer that is made into another leaves everything else of the outcome as it is. -/
theorem run_bind_pure (action : Action σ α) (change : α → β) (state : σ) :
    (action >>= fun answer => pure (change answer)).run state =
      ⟨(action.run state).result.map change, (action.run state).state,
        (action.run state).events⟩ := by
  rcases done : action.run state with ⟨e | answer, after, events⟩
  · rw [run_bind_error done]
    rfl
  · rw [run_bind_ok done, run_pure, List.append_nil]
    rfl

/-- To end a sequence with nothing is to leave it as it is. -/
theorem bind_pure (action : Action σ Unit) : (action >>= fun _ => pure ()) = action := by
  funext state
  refine (run_bind_pure action (fun _ => ()) state).trans ?_
  rcases done : action.run state with ⟨e | answer, after, events⟩ <;> exact done.symm

@[simp] theorem run_emit_bind (event : Event) (next : Unit → Action σ β) (state : σ) :
    (emit event >>= next).run state =
      ⟨((next ()).run state).result, ((next ()).run state).state,
        event :: ((next ()).run state).events⟩ :=
  run_bind_ok (run_emit event state)

@[simp] theorem run_get_bind (next : σ → Action σ β) (state : σ) :
    (get >>= next).run state = (next state).run state :=
  run_bind_ok (run_get state)

@[simp] theorem run_update_bind (change : σ → σ) (next : Unit → Action σ β) (state : σ) :
    (update change >>= next).run state = (next ()).run (change state) :=
  run_bind_ok (run_update change state)

@[simp] theorem run_ok_bind (value : α) (next : α → Action σ β) (state : σ) :
    ((liftM (Except.ok value : Except Error α) : Action σ α) >>= next).run state =
      (next value).run state :=
  run_bind_ok (run_liftM (.ok value) state)

@[simp] theorem run_error_bind (e : Error) (next : α → Action σ β) (state : σ) :
    ((liftM (Except.error e : Except Error α) : Action σ α) >>= next).run state =
      ⟨.error e, state, []⟩ :=
  run_bind_error (run_liftM (.error e) state)

@[simp] theorem run_mapError (change : Error → Error) (action : Action σ α) (state : σ) :
    (action.mapError change).run state =
      ⟨(action.run state).result.mapError change, (action.run state).state,
        (action.run state).events⟩ := rfl

@[simp] theorem run_onHandle_none (context : String) (action : Action σ α) :
    (onHandle context action).run none = ⟨.error (.nullKey context), none, []⟩ := rfl

@[simp] theorem run_onHandle_some (context : String) (action : Action σ α) (state : σ) :
    (onHandle context action).run (some state) =
      ⟨(action.run state).result, some (action.run state).state, (action.run state).events⟩ := rfl

end Action

end HybridKeys
