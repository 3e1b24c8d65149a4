import Formwork.Proofs.SavedForms
import Mathlib.Data.List.Induction

/-!
# Which names fields can share

A name that is offered is compared after trimming, with names that are kept as
they were given. Changes can therefore lead to exactly those lists of names in
which no name, trimmed, is a name before it. A name without blanks at its ends is
in such a list at most once, and is refused when it is offered again; any other
name can be there as often as it is offered.
-/

namespace Formwork

/-- A name can be there twice exactly when trimming changes it, and leaves something. -/
theorem Addable.twice_iff (name : String) :
    Addable [name, name] ↔ Text.trim name ≠ "" ∧ name ≠ Text.trim name := by
  constructor
  · intro addable
    exact ⟨addable.present name List.mem_cons_self,
      (List.pairwise_cons.mp addable.apart).1 name (List.mem_singleton.mpr rfl)⟩
  · rintro ⟨present, apart⟩
    constructor
    · simpa using present
    · simpa using apart

namespace Form

/-- Changes after changes. -/
theorem changes_append (form : Form) (first later : List Change) :
    form.changes (first ++ later) = (form.changes first).changes later :=
  List.foldl_append

/-- A field whose trimmed name is free is added at the end. -/
theorem change_add {form : Form} {widget : Widget} (present : Text.trim widget.field.name ≠ "")
    (fresh : Text.trim widget.field.name ∉ form.catalog.names) :
    (form.change (.add widget)).catalog.names = form.catalog.names ++ [widget.field.name] := by
  have added := (Catalog.add_eq_ok_iff form.catalog widget _).mpr ⟨present, fresh, rfl⟩
  simp [change, change?, addWidget, added, Except.map, Catalog.names, Catalog.fields]

/-- A field is refused as defined already exactly when its trimmed name is a name. -/
theorem change_add_refused_iff {form : Form} (addable : Addable form.catalog.names)
    (widget : Widget) :
    form.change? (.add widget) =
        .error (.configuration (.fieldDefined (Text.trim widget.field.name))) ↔
      Text.trim widget.field.name ∈ form.catalog.names := by
  constructor
  · intro refused
    by_contra fresh
    by_cases blank : Text.trim widget.field.name = ""
    · simp [change?, addWidget, Catalog.add, blank, Except.map] at refused
    · have added := (Catalog.add_eq_ok_iff form.catalog widget _).mpr ⟨blank, fresh, rfl⟩
      simp [change?, addWidget, added, Except.map] at refused
  · intro taken
    have present : Text.trim widget.field.name ≠ "" := by
      intro blank
      rw [blank] at taken
      exact addable.present "" taken rfl
    simp [change?, addWidget, Catalog.add, present, (Catalog.contains_iff form.catalog _).mpr taken,
      Except.map]

/-- The lists of names that changes to a new form lead to are exactly those in which
no name, trimmed, is blank or a name before it. -/
theorem names_changes_iff (name : String) (settings : Settings) (names : List String) :
    (∃ edits, ((named name settings).changes edits).catalog.names = names) ↔ Addable names := by
  constructor
  · rintro ⟨edits, rfl⟩
    have fresh : Addable (named name settings).catalog.names := Addable.nil
    exact changes_addable fresh edits
  · intro addable
    induction names using List.reverseRecOn with
    | nil => exact ⟨[], rfl⟩
    | append_singleton before last inductionHypothesis =>
      obtain ⟨earlier, present, fresh⟩ := (Addable.snoc_iff before last).mp addable
      obtain ⟨edits, reached⟩ := inductionHypothesis earlier
      refine ⟨edits ++ [.add { field := { name := last } }], ?_⟩
      rw [changes_append]
      rw [← reached] at fresh ⊢
      exact change_add present fresh

/-- A name can be that of several fields exactly when trimming changes it, and
leaves something. -/
theorem name_repeats_iff (name : String) (settings : Settings) (fieldName : String) :
    (∃ edits, 1 < ((named name settings).changes edits).catalog.names.count fieldName) ↔
      Text.trim fieldName ≠ "" ∧ fieldName ≠ Text.trim fieldName := by
  constructor
  · rintro ⟨edits, more⟩
    have addable := (names_changes_iff name settings _).mp ⟨edits, rfl⟩
    exact (Addable.twice_iff fieldName).mp
      (addable.sublist (List.replicate_sublist_iff.mpr more))
  · intro blank
    obtain ⟨edits, reached⟩ :=
      (names_changes_iff name settings _).mpr ((Addable.twice_iff fieldName).mpr blank)
    refine ⟨edits, ?_⟩
    rw [reached]
    simp

/-- Whatever changes are made to a new form, names without blanks at their ends are
the names of at most one field each, and a field is refused as defined already, with
the form left as it is, exactly when its trimmed name is the name of one. -/
theorem trimmed_names_unique (name : String) (settings : Settings) (edits : List Change) :
    (∀ fieldName, Text.trim fieldName = fieldName →
      ((named name settings).changes edits).catalog.names.count fieldName ≤ 1) ∧
    ∀ widget : Widget,
      (((named name settings).changes edits).change? (.add widget) =
          .error (.configuration (.fieldDefined (Text.trim widget.field.name))) ↔
        Text.trim widget.field.name ∈ ((named name settings).changes edits).catalog.names) ∧
      (Text.trim widget.field.name ∈ ((named name settings).changes edits).catalog.names →
        ((named name settings).changes edits).change (.add widget) =
          (named name settings).changes edits) := by
  constructor
  · intro fieldName trimmed
    by_contra more
    have repeats := (name_repeats_iff name settings fieldName).mp ⟨edits, Nat.lt_of_not_le more⟩
    exact repeats.2 trimmed.symm
  · intro widget
    have addable := (names_changes_iff name settings _).mp ⟨edits, rfl⟩
    have refused := change_add_refused_iff addable widget
    refine ⟨refused, fun taken => ?_⟩
    rw [change, refused.mpr taken]

/-- After the edits of a form of contacts at most one field is named `"note"`, and a
field `" note"`, which is compared as `"note"`, is not added. -/
theorem contact_names_unique :
    Text.trim "note" = "note" ∧
      ((named "contact" {}).changes contactEdits).catalog.names.count "note" ≤ 1 ∧
      Text.trim " note" ∈ ((named "contact" {}).changes contactEdits).catalog.names ∧
      ((named "contact" {}).changes contactEdits).change (.add { field := { name := " note" } }) =
        (named "contact" {}).changes contactEdits := by
  have trimmed : Text.trim "note" = "note" := by decide
  have taken : Text.trim " note" ∈ ((named "contact" {}).changes contactEdits).catalog.names := by
    decide
  obtain ⟨once, refused⟩ := trimmed_names_unique "contact" {} contactEdits
  exact ⟨trimmed, once "note" trimmed, taken, (refused { field := { name := " note" } }).2 taken⟩

/-- A name with a blank before it is not refused when it is offered again: two fields
can have the same name. -/
theorem blank_name_repeats :
    ¬ ∀ (name : String) (settings : Settings) (edits : List Change),
      ((named name settings).changes edits).catalog.names.Nodup := by
  intro unique
  have names := unique "contact" {}
    [.add { field := { name := " a" } }, .add { field := { name := " a" } }]
  revert names
  decide

end Form

end Formwork
