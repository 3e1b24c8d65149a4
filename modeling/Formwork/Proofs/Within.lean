import Mathlib.Data.List.Forall2
import Mathlib.Order.Defs.Unbundled

/-!
# Relations kept along an action

An action takes a state to a state. When it is put together from steps, a
reflexive and transitive relation that holds across each step holds across the
action. The laws here follow the ways of putting actions together, first for
actions that always return and then for actions that may fail and keep the state
they failed in.
-/

namespace Formwork

variable {σ α β ε : Type}

/-- What an action does after another one. -/
theorem run_then (first : StateM σ α) (next : α → StateM σ β) (state : σ) :
    (first >>= next).run state = (next (first.run state).1).run (first.run state).2 := rfl

/-- An action that only gives a value. -/
theorem run_return (value : α) (state : σ) :
    (Pure.pure value : StateM σ α).run state = (value, state) := rfl

/-- Reading the state. -/
theorem run_get (state : σ) : (MonadState.get : StateM σ σ).run state = (state, state) := rfl

/-- Changing the state. -/
theorem run_modify (change : σ → σ) (state : σ) :
    (modify change : StateM σ Unit).run state = ((), change state) := rfl

/-- The action relates every state to the state that it leads to. -/
def Within (related : σ → σ → Prop) (action : StateM σ α) : Prop :=
  ∀ state, related state (action.run state).2

namespace Within

variable {related : σ → σ → Prop}

/-- An action that changes nothing. -/
theorem pure [IsPreorder σ related] (value : α) : Within related (Pure.pure value) :=
  fun state => refl_of related state

/-- One action after another. -/
theorem bind [IsPreorder σ related] {first : StateM σ α} {next : α → StateM σ β}
    (left : Within related first) (right : ∀ value, Within related (next value)) :
    Within related (first >>= next) :=
  fun state => trans_of related (left state) (right _ _)

/-- Reading the state changes nothing. -/
theorem get [IsPreorder σ related] : Within related (MonadState.get : StateM σ σ) :=
  fun state => refl_of related state

/-- Reading the state and putting another one in its place before going on. -/
theorem replace [IsPreorder σ related] {change : σ → σ} {next : σ → StateM σ α}
    (steps : ∀ state, related state (change state)) (right : ∀ state, Within related (next state)) :
    Within related (do let state ← MonadState.get; set (change state); next state) :=
  fun state => trans_of related (steps state) (right state _)

/-- A change that is related to every state. -/
theorem step {change : σ → σ} (steps : ∀ state, related state (change state)) :
    Within related (modify change : StateM σ Unit) :=
  steps

/-- One action for each item of a list. -/
theorem mapM [IsPreorder σ related] {action : α → StateM σ β} (items : List α)
    (each : ∀ item, Within related (action item)) : Within related (items.mapM action) := by
  induction items with
  | nil => exact .pure _
  | cons item rest inductionHypothesis =>
    rw [List.mapM_cons]
    exact (each item).bind fun _ => inductionHypothesis.bind fun _ => .pure _

/-- Values given for the items of a list, one after another, are what each of the states on the
way gives for its item. What holds of a value in a state that is reached holds of it
in the state before. -/
theorem mapM_values [IsPreorder σ related] {holds : σ → α → β → Prop} {action : α → StateM σ β}
    (back : ∀ before after item value, related before after → holds after item value →
      holds before item value)
    (within : ∀ item, Within related (action item))
    (each : ∀ item state, holds state item ((action item).run state).1) (items : List α)
    (state : σ) : List.Forall₂ (holds state) items ((items.mapM action).run state).1 := by
  induction items generalizing state with
  | nil => exact .nil
  | cons item rest inductionHypothesis =>
    rw [List.mapM_cons, run_then, run_then, run_return]
    refine .cons (each item state) ((inductionHypothesis _).imp fun other value later => ?_)
    exact back _ _ other value (within item state) later

/-- What holds across an action holds for every wider relation. -/
theorem mono {wider : σ → σ → Prop} {action : StateM σ α}
    (includes : ∀ before after, related before after → wider before after)
    (within : Within related action) : Within wider action :=
  fun state => includes _ _ (within state)

end Within

/-! ## Actions that may fail -/

/-- An action that may fail relates every state to the state that it leads to,
whether it fails or not. -/
def MayFail (related : σ → σ → Prop) (action : ExceptT ε (StateM σ) α) : Prop :=
  Within related action.run

/-- What an action that may fail does after another one. -/
theorem run_bind (first : ExceptT ε (StateM σ) α) (next : α → ExceptT ε (StateM σ) β) (state : σ) :
    (first >>= next).run.run state =
      match (first.run.run state).1 with
      | .ok value => (next value).run.run (first.run.run state).2
      | .error failure => (.error failure, (first.run.run state).2) := by
  change (ExceptT.bindCont next (first.run.run state).1).run (first.run.run state).2 = _
  cases (first.run.run state).1 <;> rfl

/-- What is done with a result that does not depend on the state. -/
theorem run_lift_bind (result : Except ε α) (next : α → ExceptT ε (StateM σ) β) (state : σ) :
    ((liftM result : ExceptT ε (StateM σ) α) >>= next).run.run state =
      match result with
      | .ok value => (next value).run.run state
      | .error failure => (.error failure, state) := by
  cases result <;> rfl

/-- What is done with the state that was read. -/
theorem run_get_bind (next : σ → ExceptT ε (StateM σ) β) (state : σ) :
    ((MonadState.get : ExceptT ε (StateM σ) σ) >>= next).run.run state =
      (next state).run.run state := rfl

/-- What is done after the state was changed. -/
theorem run_modify_bind (change : σ → σ) (next : Unit → ExceptT ε (StateM σ) β) (state : σ) :
    ((modify change : ExceptT ε (StateM σ) Unit) >>= next).run.run state =
      (next ()).run.run (change state) := rfl

namespace MayFail

variable {related : σ → σ → Prop}

/-- A result that does not depend on the state. -/
theorem ofExcept [IsPreorder σ related] (result : Except ε α) :
    MayFail related (liftM result : ExceptT ε (StateM σ) α) :=
  fun state => refl_of related state

/-- An action that changes nothing. -/
theorem pure [IsPreorder σ related] (value : α) :
    MayFail related (Pure.pure value : ExceptT ε (StateM σ) α) :=
  fun state => refl_of related state

/-- One action after another, unless the first one fails. -/
theorem bind [IsPreorder σ related] {first : ExceptT ε (StateM σ) α}
    {next : α → ExceptT ε (StateM σ) β} (left : MayFail related first)
    (right : ∀ value, MayFail related (next value)) : MayFail related (first >>= next) := by
  intro state
  rw [run_bind]
  split
  · exact trans_of related (left state) (right _ _)
  · exact left state

/-- Reading the state changes nothing. -/
theorem get [IsPreorder σ related] :
    MayFail related (MonadState.get : ExceptT ε (StateM σ) σ) :=
  fun state => refl_of related state

/-- A change that is related to every state. -/
theorem step {change : σ → σ} (steps : ∀ state, related state (change state)) :
    MayFail related (modify change : ExceptT ε (StateM σ) Unit) :=
  steps

end MayFail

end Formwork
