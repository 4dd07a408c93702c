/-
Module: HybridKeys.Proofs.CallHistories
Purpose: Calls that are made one after another, with what each of them answered, and settings that stay
  as the latest successful call left them.
Main exports: Entry, Entry.Succeeded, Action.History, Latest, Latest.quiet, Latest.of_failed,
  Latest.done, Latest.overlay, Latest.unique
-/
import HybridKeys.Action
import Mathlib.Data.List.Induction

namespace HybridKeys

/-!
Some of what a state holds is set by some calls and left alone by all others.  What it is after a history
can be told from the history itself: look for the last call that succeeded and had a value to set.  If
there is none, it is what it was at the start.  Calls that failed are in the history too, and count for
nothing.
-/

universe u

variable {ι : Type u} {σ α β : Type}

/-- A call, and how it ended. -/
structure Entry (ι : Type u) (α : Type) where
  call : ι
  result : Except Error α

def Entry.Succeeded (entry : Entry ι α) : Prop :=
  ∃ answer, entry.result = .ok answer

/-- The calls that were made on a state, the oldest first, each with its result; and the state that they
left. -/
inductive Action.History (act : ι → Action σ α) (start : σ) : List (Entry ι α) → σ → Prop where
  | start : History act start [] start
  | call {entries : List (Entry ι α)} {state : σ} (history : History act start entries state)
      (next : ι) :
      History act start (entries ++ [⟨next, ((act next).run state).result⟩])
        ((act next).run state).state

/-- The value is the one of the latest successful call that sets any, or else the one at the start.  What
a call sets, if it succeeds, is given. -/
inductive Latest (sets : ι → Option β) (start : β) : List (Entry ι α) → β → Prop where
  | unset {entries : List (Entry ι α)}
      (quiet : ∀ entry ∈ entries, entry.Succeeded → sets entry.call = none) :
      Latest sets start entries start
  | set {before after : List (Entry ι α)} {entry : Entry ι α} {value : β}
      (succeeded : entry.Succeeded) (has : sets entry.call = some value)
      (quiet : ∀ later ∈ after, later.Succeeded → sets later.call = none) :
      Latest sets start (before ++ entry :: after) value

namespace Latest

variable {sets : ι → Option β} {start value other : β} {entries : List (Entry ι α)}
  {entry : Entry ι α}

theorem nil : Latest sets start ([] : List (Entry ι α)) start :=
  .unset (by simp)

/-- A call that has no value to set, if it succeeds, leaves the value in force. -/
theorem quiet (latest : Latest sets start entries value)
    (silent : entry.Succeeded → sets entry.call = none) :
    Latest sets start (entries ++ [entry]) value := by
  cases latest with
  | unset earlier =>
      refine .unset ?_
      intro one member
      rcases List.mem_append.1 member with old | new
      · exact earlier one old
      · rwa [List.mem_singleton.1 new]
  | set succeeded has later =>
      rw [List.append_assoc, List.cons_append]
      refine .set succeeded has ?_
      intro one member
      rcases List.mem_append.1 member with old | new
      · exact later one old
      · rwa [List.mem_singleton.1 new]

theorem of_failed {call : ι} {result : Except Error α} {e : Error}
    (latest : Latest sets start entries value) (failed : result = .error e) :
    Latest sets start (entries ++ [⟨call, result⟩]) value := by
  refine latest.quiet ?_
  rintro ⟨answer, answered⟩
  rw [failed] at answered
  cases answered

/-- A successful call with a value puts it in force. -/
theorem overwrite (succeeded : entry.Succeeded) (has : sets entry.call = some value) :
    Latest sets start (entries ++ [entry]) value :=
  .set succeeded has (by simp)

/-- After a successful call the value is the one that the call sets, or else the one before. -/
theorem done (latest : Latest sets start entries value) (succeeded : entry.Succeeded) :
    Latest sets start (entries ++ [entry]) ((sets entry.call).getD value) := by
  cases has : sets entry.call with
  | none => exact latest.quiet fun _ => has
  | some new => exact overwrite succeeded has

/-- A setting that may be absent is replaced by what a successful call gives for it, if it gives any. -/
theorem overlay {γ : Type} {sets : ι → Option (Option γ)} {start value given : Option γ}
    (latest : Latest sets start entries value) (succeeded : entry.Succeeded)
    (gives : sets entry.call = given.map some) :
    Latest sets start (entries ++ [entry]) (given <|> value) := by
  have set := latest.done succeeded
  rw [gives] at set
  cases given <;> exact set

/-- The last call of a history either put the value in force or has nothing to do with it. -/
theorem cases_last (latest : Latest sets start (entries ++ [entry]) value) :
    (entry.Succeeded ∧ sets entry.call = some value) ∨
      ((entry.Succeeded → sets entry.call = none) ∧ Latest sets start entries value) := by
  generalize whole : entries ++ [entry] = all at latest
  cases latest with
  | unset quiet =>
      subst whole
      exact .inr ⟨quiet entry (by simp),
        .unset fun one member => quiet one (List.mem_append_left _ member)⟩
  | @set before after setter _ succeeded has quiet =>
      rcases List.eq_nil_or_concat after with rfl | ⟨shorter, last, rfl⟩
      · obtain ⟨-, ⟨⟩⟩ := List.append_inj' whole rfl
        exact .inl ⟨succeeded, has⟩
      · rw [List.concat_eq_append, ← List.cons_append, ← List.append_assoc] at whole
        obtain ⟨rfl, ⟨⟩⟩ := List.append_inj' whole rfl
        refine .inr ⟨quiet entry (by simp), .set succeeded has fun one member => quiet one ?_⟩
        rw [List.concat_eq_append]
        exact List.mem_append_left _ member

/-- Without calls the value at the start is in force. -/
theorem eq_start (latest : Latest sets start ([] : List (Entry ι α)) value) : value = start := by
  generalize nothing : ([] : List (Entry ι α)) = all at latest
  cases latest with
  | unset => rfl
  | set => simp at nothing

/-- A history leaves one value in force. -/
theorem unique (one : Latest sets start entries value) (two : Latest sets start entries other) :
    value = other := by
  induction entries using List.reverseRecOn with
  | nil =>
      rw [one.eq_start, two.eq_start]
  | append_singleton earlier last inductionHypothesis =>
      rcases one.cases_last with ⟨succeeded, has⟩ | ⟨silent, before⟩
      · rcases two.cases_last with ⟨-, also⟩ | ⟨silent, -⟩
        · exact Option.some.inj (has.symm.trans also)
        · rw [silent succeeded] at has
          cases has
      · rcases two.cases_last with ⟨succeeded, has⟩ | ⟨-, alsoBefore⟩
        · rw [silent succeeded] at has
          cases has
        · exact inductionHypothesis before alsoBefore

end Latest

end HybridKeys
