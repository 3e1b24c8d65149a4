import Formwork.Form.Catalog

/-!
# The order in which fields were added

A field is added when its trimmed name is neither blank nor the whole name of a
field before it. Names are kept as they were given, so the check is not
symmetric: a catalog may hold `"a"` behind `" a"` but not in front of it. What a
catalog keeps through every change is therefore a property of the order of its
names: each could be added behind the names before it. Such a catalog can be
built again from its fields.
-/

namespace Formwork

/-- Each name could be added behind the names before it. -/
structure Addable (names : List String) : Prop where
  /-- No name is blank. -/
  present : ∀ name ∈ names, Text.trim name ≠ ""
  /-- No name, trimmed, is a name before it. -/
  apart : names.Pairwise fun earlier later => earlier ≠ Text.trim later

namespace Addable

/-- No names are needed to begin with. -/
theorem nil : Addable [] := ⟨by simp, List.Pairwise.nil⟩

/-- Leaving out names keeps the others in order. -/
theorem sublist {names kept : List String} (addable : Addable names)
    (within : kept.Sublist names) : Addable kept :=
  ⟨fun name member => addable.present name (within.subset member), addable.apart.sublist within⟩

/-- One more name joins at the end when it passes the check there. -/
theorem snoc_iff (names : List String) (name : String) :
    Addable (names ++ [name]) ↔
      Addable names ∧ Text.trim name ≠ "" ∧ Text.trim name ∉ names := by
  constructor
  · intro addable
    have before : Addable names := addable.sublist (List.sublist_append_left names [name])
    refine ⟨before, addable.present name (by simp), fun member => ?_⟩
    exact (List.pairwise_append.mp addable.apart).2.2 _ member name (by simp) rfl
  · rintro ⟨addable, named, fresh⟩
    constructor
    · intro other member
      rcases List.mem_append.mp member with before | last
      · exact addable.present other before
      · rw [List.mem_singleton.mp last]
        exact named
    · refine List.pairwise_append.mpr ⟨addable.apart, List.pairwise_singleton _ _, ?_⟩
      intro earlier member later last
      rw [List.mem_singleton.mp last]
      rintro rfl
      exact fresh member

end Addable

namespace Catalog

/-- There is a field of a name exactly when it is one of the names. -/
theorem contains_iff (catalog : Catalog) (name : String) :
    catalog.contains name = true ↔ name ∈ catalog.names := by
  simp [contains, get?, names, fields, List.find?_isSome]

/-- A field is added exactly when its name is addable, and then stands at the
end. -/
theorem add_eq_ok_iff (catalog : Catalog) (widget : Widget) (extended : Catalog) :
    catalog.add widget = .ok extended ↔
      Text.trim widget.field.name ≠ "" ∧ Text.trim widget.field.name ∉ catalog.names ∧
        extended = ⟨catalog.widgets ++ [widget]⟩ := by
  unfold add
  by_cases blank : Text.trim widget.field.name = ""
  · simp [blank]
  · by_cases taken : Text.trim widget.field.name ∈ catalog.names
    · simp [blank, taken, (contains_iff catalog _).mpr taken]
    · have free : catalog.contains (Text.trim widget.field.name) = false := by
        rw [Bool.eq_false_iff, ne_eq, contains_iff]
        exact taken
      simp [blank, taken, free, eq_comm]

/-- Adding a field keeps the names addable. -/
theorem add_addable {catalog extended : Catalog} {widget : Widget}
    (addable : Addable catalog.names) (added : catalog.add widget = .ok extended) :
    Addable extended.names := by
  obtain ⟨named, fresh, rfl⟩ := (add_eq_ok_iff catalog widget extended).mp added
  have behind : names ⟨catalog.widgets ++ [widget]⟩ = catalog.names ++ [widget.field.name] := by
    simp [names, fields]
  rw [behind]
  exact (Addable.snoc_iff _ _).mpr ⟨addable, named, fresh⟩

/-- Removing a field keeps the names addable. -/
theorem erase_addable {catalog : Catalog} (addable : Addable catalog.names) (name : String) :
    Addable (catalog.erase name).names :=
  addable.sublist ((List.eraseP_sublist.map _).map _)

/-- What a change keeps of each widget is kept of the whole catalog. -/
theorem map_modify {α : Type} (view : Widget → α) (catalog : Catalog) (name : String)
    (change : Widget → Widget) (keeps : ∀ widget, view (change widget) = view widget) :
    (catalog.modify name change).widgets.map view = catalog.widgets.map view := by
  obtain ⟨widgets⟩ := catalog
  induction widgets with
  | nil => rfl
  | cons widget rest inductionHypothesis =>
    change (modifyFirst name change (widget :: rest)).map view = _
    unfold modifyFirst
    split
    · simp [keeps]
    · rw [List.map_cons, List.map_cons]
      exact congrArg _ inductionHypothesis

/-- Changes that keep the name of a field keep all names. -/
theorem names_modify (catalog : Catalog) (name : String) (change : Widget → Widget)
    (keeps : ∀ widget, (change widget).field.name = widget.field.name) :
    (catalog.modify name change).names = catalog.names := by
  simp only [names, fields, List.map_map]
  exact map_modify _ catalog name change keeps

/-- A field that can or cannot be changed has the same name. -/
theorem names_setDisabled {catalog changed : Catalog} {name : String} {disabled : Bool}
    (set : catalog.setDisabled name disabled = .ok changed) : changed.names = catalog.names := by
  unfold setDisabled at set
  split at set
  · obtain rfl := Except.ok.inj set
    exact names_modify catalog name _ fun _ => rfl
  · cases set

/-- Fields whose names are addable behind those of a catalog are all added, in
order. Each of them finds the catalog as its predecessors left it. -/
theorem addFields (make : Field → Widget) (keeps : ∀ field, (make field).field = field)
    (fields : List Field) (base : Catalog)
    (addable : Addable (base.names ++ fields.map (·.name))) :
    ∃ catalog, fields.foldlM (fun catalog field => catalog.add (make field)) base = .ok catalog ∧
      catalog.fields = base.fields ++ fields := by
  induction fields generalizing base with
  | nil => exact ⟨base, rfl, by simp⟩
  | cons field rest inductionHypothesis =>
    have split : base.names ++ (field :: rest).map (·.name) =
        (base.names ++ [field.name]) ++ rest.map (·.name) := by simp
    rw [split] at addable
    have here : Addable (base.names ++ [field.name]) :=
      addable.sublist (List.sublist_append_left _ _)
    obtain ⟨-, named, fresh⟩ := (Addable.snoc_iff _ _).mp here
    have added : base.add (make field) = .ok ⟨base.widgets ++ [make field]⟩ := by
      rw [add_eq_ok_iff, keeps]
      exact ⟨named, fresh, rfl⟩
    have extended : Catalog.fields ⟨base.widgets ++ [make field]⟩ = base.fields ++ [field] := by
      simp [Catalog.fields, keeps]
    have renamed : names ⟨base.widgets ++ [make field]⟩ = base.names ++ [field.name] := by
      simp [names, extended]
    obtain ⟨catalog, later, kept⟩ :=
      inductionHypothesis ⟨base.widgets ++ [make field]⟩ (renamed ▸ addable)
    refine ⟨catalog, ?_, by simp [kept, extended]⟩
    rw [List.foldlM_cons, added]
    exact later

/-- A catalog with addable names is built again from its fields. -/
theorem ofFields_fields (make : Field → Widget) (keeps : ∀ field, (make field).field = field)
    {catalog : Catalog} (addable : Addable catalog.names) :
    ∃ rebuilt, ofFields make catalog.fields = .ok rebuilt ∧ rebuilt.fields = catalog.fields :=
  addFields make keeps catalog.fields empty addable

end Catalog

end Formwork
