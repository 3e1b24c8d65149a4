import Formwork.Proofs.TagSequence
import Formwork.Proofs.Within
import Mathlib.Data.List.Forall2

/-!
# Actions in lockstep

Two actions are in lockstep if from every state with an invariant they lead to
the same state, which has the invariant as well, and give values that are
related. Actions put together from steps in lockstep are in lockstep, so that of
all they do only the values they give can differ.
-/

namespace Formwork

variable {σ α β γ δ : Type}

/-- From every state with the invariant both actions lead to the same state, which
has the invariant, and give related values. -/
def Lockstep (invariant : σ → Prop) (related : α → β → Prop) (left : StateM σ α)
    (right : StateM σ β) : Prop :=
  ∀ state, invariant state →
    related (left.run state).1 (right.run state).1 ∧
      (left.run state).2 = (right.run state).2 ∧ invariant (left.run state).2

namespace Lockstep

variable {invariant : σ → Prop} {related : α → β → Prop} {result : γ → δ → Prop}

/-- Actions that only give values. -/
theorem pure {value : α} {other : β} (values : related value other) :
    Lockstep invariant related (Pure.pure value) (Pure.pure other) :=
  fun _ holds => ⟨values, rfl, holds⟩

/-- One action after another on both sides. -/
theorem bind {left : StateM σ α} {right : StateM σ β} {next : α → StateM σ γ}
    {next' : β → StateM σ δ} (first : Lockstep invariant related left right)
    (second : ∀ value other, related value other → Lockstep invariant result (next value) (next' other)) :
    Lockstep invariant result (left >>= next) (right >>= next') := by
  intro state holds
  obtain ⟨values, same, kept⟩ := first state holds
  have after := second _ _ values _ kept
  rw [run_then, run_then, ← same]
  exact after

/-- What is related by the values may be said in a weaker way. -/
theorem mono {weaker : α → β → Prop} {left : StateM σ α} {right : StateM σ β}
    (lockstep : Lockstep invariant related left right)
    (weakens : ∀ value other, related value other → weaker value other) :
    Lockstep invariant weaker left right :=
  fun state holds => (lockstep state holds).imp_left (weakens _ _)

/-- Reading the state gives the same on both sides. -/
theorem get : Lockstep invariant (fun state other => state = other ∧ invariant state)
    (MonadState.get : StateM σ σ) MonadState.get :=
  fun _ holds => ⟨⟨rfl, holds⟩, rfl, holds⟩

/-- Putting the same state in place on both sides. -/
theorem set {state : σ} (holds : invariant state) :
    Lockstep invariant Eq (MonadStateOf.set state : StateM σ PUnit) (MonadStateOf.set state) :=
  fun _ _ => ⟨rfl, rfl, holds⟩

/-- An action that keeps the invariant is in lockstep with itself. -/
theorem same {action : StateM σ α}
    (keeps : Within (fun before after => invariant before → invariant after) action) :
    Lockstep invariant Eq action action :=
  fun state holds => ⟨rfl, rfl, keeps state holds⟩

/-- Actions behind one that is taken on both sides, or left out on both. -/
theorem perhaps {condition : Prop} [Decidable condition] {aside : StateM σ α}
    {left : StateM σ γ} {right : StateM σ δ} (same : Lockstep invariant Eq aside aside)
    (both : Lockstep invariant result left right) :
    Lockstep invariant result (if condition then aside >>= fun _ => left else left)
      (if condition then aside >>= fun _ => right else right) := by
  split
  · exact same.bind fun _ _ _ => both
  · exact both

/-- One action for each item of two lists whose items are paired. -/
theorem each {pair : α → β → Prop} {action : α → StateM σ γ} {action' : β → StateM σ δ}
    {items : List α} {others : List β} (paired : List.Forall₂ pair items others)
    (both : ∀ item other, pair item other →
      Lockstep invariant result (action item) (action' other)) :
    Lockstep invariant (List.Forall₂ result) (items.mapM action) (others.mapM action') := by
  induction paired with
  | nil => exact .pure .nil
  | cons here rest inductionHypothesis =>
    rw [List.mapM_cons, List.mapM_cons]
    refine (both _ _ here).bind fun _ _ value => ?_
    exact inductionHypothesis.bind fun _ _ values => .pure (.cons value values)

/-- One action for each item of two lists in step, if those for gaps only give
values. -/
theorem mapM {gap : α → Prop} {agree : α → α → Prop} {gap' : β → Prop} {agree' : β → β → Prop}
    {action action' : α → StateM σ β} {items others : List α} (aligned : Aligned gap agree items others)
    (first : ∀ item, gap item → ∃ value, action item = Pure.pure value ∧ gap' value)
    (second : ∀ item, gap item → ∃ value, action' item = Pure.pure value ∧ gap' value)
    (both : ∀ item other, agree item other →
      Lockstep invariant agree' (action item) (action' other)) :
    Lockstep invariant (Aligned gap' agree') (items.mapM action) (others.mapM action') := by
  induction aligned with
  | nil => exact .pure .nil
  | @first item left right fills rest inductionHypothesis =>
    obtain ⟨value, gives, filled⟩ := first item fills
    rw [List.mapM_cons, gives, pure_bind, ← bind_pure (right.mapM action')]
    exact inductionHypothesis.bind fun _ _ values => .pure (.first filled values)
  | @second item left right fills rest inductionHypothesis =>
    obtain ⟨value, gives, filled⟩ := second item fills
    rw [List.mapM_cons, gives, pure_bind, ← bind_pure (left.mapM action)]
    exact inductionHypothesis.bind fun _ _ values => .pure (.second filled values)
  | both agrees rest inductionHypothesis =>
    rw [List.mapM_cons, List.mapM_cons]
    refine (both _ _ agrees).bind fun _ _ here => ?_
    exact inductionHypothesis.bind fun _ _ values => .pure (.both here values)

end Lockstep

end Formwork
