import Formwork.Proofs.Within

/-!
# Two runs abreast

An action is run from two states that are alike. The runs are abreast if they give
the same value and lead to states that are alike again, so that nobody who only
sees the values can tell the states apart. The laws follow the ways of putting
actions together. Two different actions may be abreast as well; an action that is
abreast of itself does not look at what makes the states differ.
-/

namespace Formwork

variable {σ α β ε : Type}

/-- From states that are alike both actions give the same value and lead to states
that are alike. -/
def Abreast (alike : σ → σ → Prop) (left right : StateM σ α) : Prop :=
  ∀ state other, alike state other →
    (left.run state).1 = (right.run other).1 ∧ alike (left.run state).2 (right.run other).2

namespace Abreast

variable {alike : σ → σ → Prop}

/-- An action that only gives a value. -/
theorem pure (value : α) : Abreast alike (Pure.pure value) (Pure.pure value) := by
  intro state other same
  exact ⟨rfl, same⟩

/-- One action after another. What follows may depend on the value, which is the
same for both. -/
theorem bind {left right : StateM σ α} {next next' : α → StateM σ β}
    (first : Abreast alike left right) (second : ∀ value, Abreast alike (next value) (next' value)) :
    Abreast alike (left >>= next) (right >>= next') := by
  intro state other same
  obtain ⟨values, after⟩ := first state other same
  rw [run_then, run_then, ← values]
  exact second _ _ _ after

/-- Changes that keep states alike. -/
theorem step {change change' : σ → σ}
    (steps : ∀ state other, alike state other → alike (change state) (change' other)) :
    Abreast alike (modify change : StateM σ Unit) (modify change') := by
  intro state other same
  exact ⟨rfl, steps state other same⟩

/-- Reading the state before going on in a way that both states lead to. -/
theorem get {next next' : σ → StateM σ α}
    (reads : ∀ state other, alike state other → Abreast alike (next state) (next' other)) :
    Abreast alike (MonadState.get >>= next) (MonadState.get >>= next') := by
  intro state other same
  exact reads state other same state other same

/-- Reading the state and putting another one in its place before going on. -/
theorem replace {change change' : σ → σ} {next next' : σ → StateM σ α}
    (steps : ∀ state other, alike state other → alike (change state) (change' other))
    (reads : ∀ state other, alike state other → Abreast alike (next state) (next' other)) :
    Abreast alike (do let state ← MonadState.get; set (change state); next state)
      (do let state ← MonadState.get; set (change' state); next' state) := by
  intro state other same
  exact reads state other same _ _ (steps state other same)

/-- One action for each item of a list. -/
theorem mapM {action action' : α → StateM σ β} (items : List α)
    (each : ∀ item, Abreast alike (action item) (action' item)) :
    Abreast alike (items.mapM action) (items.mapM action') := by
  induction items with
  | nil => exact pure []
  | cons item rest inductionHypothesis =>
    rw [List.mapM_cons, List.mapM_cons]
    exact (each item).bind fun _ => inductionHypothesis.bind fun _ => pure _

end Abreast

/-! ## Actions that may fail -/

/-- What is done with a value that is there. -/
theorem lift_ok_bind (value : α) (next : α → ExceptT ε (StateM σ) β) :
    (liftM (.ok value : Except ε α) : ExceptT ε (StateM σ) α) >>= next = next value := rfl

/-- Nothing is done after a failure. -/
theorem lift_error_bind (failure : ε) (next : α → ExceptT ε (StateM σ) β) :
    (liftM (.error failure : Except ε α) : ExceptT ε (StateM σ) α) >>= next =
      liftM (.error failure : Except ε β) := rfl

/-- Actions that may fail are abreast if they fail together, with the same failure,
and in states that are alike. -/
def FailAbreast (alike : σ → σ → Prop) (left right : ExceptT ε (StateM σ) α) : Prop :=
  Abreast alike left.run right.run

namespace FailAbreast

variable {alike : σ → σ → Prop}

/-- An action that only gives a value. -/
theorem pure (value : α) :
    FailAbreast alike (Pure.pure value : ExceptT ε (StateM σ) α) (Pure.pure value) :=
  Abreast.pure _

/-- A result that does not depend on the state. -/
theorem ofExcept (result : Except ε α) :
    FailAbreast alike (liftM result : ExceptT ε (StateM σ) α) (liftM result) := by
  intro state other same
  exact ⟨rfl, same⟩

/-- One action after another, unless the first one fails. -/
theorem bind {left right : ExceptT ε (StateM σ) α} {next next' : α → ExceptT ε (StateM σ) β}
    (first : FailAbreast alike left right)
    (second : ∀ value, FailAbreast alike (next value) (next' value)) :
    FailAbreast alike (left >>= next) (right >>= next') := by
  intro state other same
  obtain ⟨values, after⟩ := first state other same
  rw [run_bind, run_bind, ← values]
  cases (left.run.run state).1 with
  | ok value => exact second value _ _ after
  | error failure => exact ⟨rfl, after⟩

/-- Changes that keep states alike. -/
theorem step {change change' : σ → σ}
    (steps : ∀ state other, alike state other → alike (change state) (change' other)) :
    FailAbreast alike (modify change : ExceptT ε (StateM σ) Unit) (modify change') := by
  intro state other same
  exact ⟨rfl, steps state other same⟩

/-- Reading the state before going on in a way that both states lead to. -/
theorem get {next next' : σ → ExceptT ε (StateM σ) α}
    (reads : ∀ state other, alike state other → FailAbreast alike (next state) (next' other)) :
    FailAbreast alike (MonadState.get >>= next) (MonadState.get >>= next') := by
  intro state other same
  exact reads state other same state other same

end FailAbreast

end Formwork
