import Formwork.Proofs.AskedFields
import Formwork.Proofs.WrittenTexts
import Mathlib.Data.List.Nodup

/-!
# The fields that a loop shows

A loop over fields on a page that has shown none yet writes its hidden fields, each as
its widget shows it with what was posted for it, and repeats its body for the others.
Which fields these are is said by the catalog and by the attributes of the loop alone,
if no two fields share a name; showing one does not change how another one is shown.
-/

namespace Formwork.Page

open Text (Plain)

/-! ## Fields that are shown once -/

/-- What is written for a whole field: its widget knows where it is shown, and has the value
that was posted for it, if there is one. -/
def fieldHtml (request : Request) (catalog : Catalog) (name : String) : String :=
  ((catalog.get? name).map fun widget =>
    (presented request widget).html none
      (setGiven "value" (request.submission.value? name) .empty)).getD ""

/-- The page is one on which some tokens were issued and some fields shown since it was
started. -/
structure Standing (request : Request) (started : Page) (issued : Nat) (emitted : List String)
    (page : Page) : Prop where
  /-- Besides its fields the form is the same. -/
  form : page.form = { started.form with catalog := page.form.catalog }
  /-- The fields are the same once they know where they are shown. -/
  widgets : page.form.catalog.widgets.map (presented request) =
    started.form.catalog.widgets.map (presented request)
  /-- The number of tokens issued. -/
  issued : page.issued = issued
  /-- The fields that were shown. -/
  emitted : page.emitted = emitted

namespace Standing

variable {request : Request} {started page : Page} {issued : Nat} {emitted : List String}

/-- A field is found on the page as it was when the page was started. -/
theorem found (standing : Standing request started issued emitted page) (name : String) :
    (page.form.catalog.get? name).map (presented request) =
      (started.form.catalog.get? name).map (presented request) := by
  have looked (catalog : Catalog) : (catalog.get? name).map (presented request) =
      (catalog.widgets.map (presented request)).find? fun widget => widget.field.name = name := by
    rw [List.find?_map]
    rfl
  rw [looked, looked, standing.widgets]

/-- The descriptions are the same. -/
theorem fields (standing : Standing request started issued emitted page) :
    page.form.catalog.fields = started.form.catalog.fields := by
  have described (catalog : Catalog) : catalog.fields =
      (catalog.widgets.map (presented request)).map fun widget => widget.field := by
    simp [Catalog.fields, presented]
  rw [described, described, standing.widgets]

/-- One more field is shown. -/
theorem shows (standing : Standing request started issued emitted page) {name : String}
    (fresh : name ∉ emitted) :
    Standing request started issued (emitted ++ [name])
      ((page.presenting request name).marking name) := by
  have first : (page.presenting request name).isEmitted name = false := by
    simpa [isEmitted, presenting, standing.emitted] using fresh
  unfold marking
  rw [first, if_neg Bool.false_ne_true]
  refine ⟨?_, ?_, standing.issued, ?_⟩
  · exact congrArg (fun form : Form =>
      { form with catalog := page.form.catalog.modify name (presented request) }) standing.form
  · rw [← standing.widgets]
    exact Catalog.map_modify _ _ _ _ fun _ => rfl
  · simp [presenting, standing.emitted]

/-- Fields that are shown one after another, each as its text says. -/
theorem shows_all {write : String → StateM Page String} {text : String → String}
    {names : List String} (distinct : names.Nodup) (fresh : ∀ name ∈ names, name ∉ emitted)
    (one : ∀ name ∈ names, ∀ page emitted, Standing request started issued emitted page →
      name ∉ emitted →
        ((write name).run page).1 = text name ∧
          Standing request started issued (emitted ++ [name]) ((write name).run page).2)
    (standing : Standing request started issued emitted page) :
    ((writeAll names write).run page).1 = String.join (names.map text) ∧
      Standing request started issued (emitted ++ names) ((writeAll names write).run page).2 := by
  induction names generalizing page emitted with
  | nil => exact ⟨rfl, by rwa [List.append_nil]⟩
  | cons name rest inductionHypothesis =>
    obtain ⟨here, others⟩ := List.forall_mem_cons.mp one
    obtain ⟨first, later⟩ := List.nodup_cons.mp distinct
    obtain ⟨unshown, unshown'⟩ := List.forall_mem_cons.mp fresh
    obtain ⟨written, shown⟩ := here page emitted standing unshown
    have waiting : ∀ other ∈ rest, other ∉ emitted ++ [name] := by
      intro other member
      rw [List.mem_append, List.mem_singleton, not_or]
      exact ⟨unshown' other member, fun same => first (same ▸ member)⟩
    obtain ⟨texts, all⟩ := inductionHypothesis later waiting others shown
    rw [writeAll_cons, run_then, List.map_cons, String.join_cons]
    rw [List.append_assoc, List.singleton_append] at all
    refine ⟨?_, all⟩
    rw [run_then, run_return, texts, written]

end Standing

/-- The name of a field says nothing to its own widget. -/
theorem html_named (widget : Widget) (layout value : Option String) :
    widget.html layout (setGiven "value" value ⟨[("name", widget.field.name)]⟩) =
      widget.html layout (setGiven "value" value .empty) := by
  have named : setGiven "value" value ⟨[("name", widget.field.name)]⟩ =
      ⟨("name", widget.field.name) :: (setGiven "value" value .empty).pairs⟩ := by
    cases value <;> rfl
  have none : (setGiven "value" value .empty).get? "name" = none := by
    cases value <;> rfl
  rw [named]
  generalize setGiven "value" value .empty = given at none ⊢
  have skipped {other : String} (apart : "name" ≠ other) :
      Attributes.get? ⟨("name", widget.field.name) :: given.pairs⟩ other = given.get? other := by
    simp [Attributes.get?, apart]
  have same : widget.inputName ⟨("name", widget.field.name) :: given.pairs⟩ =
      widget.inputName given := by
    rw [Widget.inputName, Widget.inputName, none]
    simp [Attributes.get?]
  have value : widget.currentValue ⟨("name", widget.field.name) :: given.pairs⟩ =
      widget.currentValue given := by
    rw [Widget.currentValue, Widget.currentValue, skipped (by decide)]
  have extra : widget.extraAttributes ⟨("name", widget.field.name) :: given.pairs⟩ =
      widget.extraAttributes given := by
    simp [Widget.extraAttributes, Widget.reserved]
  have label : widget.labelHtml ⟨("name", widget.field.name) :: given.pairs⟩ =
      widget.labelHtml given := by
    simp only [Widget.labelHtml, skipped (show "name" ≠ "label" by decide), same]
  simp only [Widget.html, Widget.inputHtml, same, value, extra, label]

/-- A field is shown whole, with the value that was posted for it. -/
theorem writeField_whole (request : Request) (source : String) {name : String}
    {attributes : Attributes} (display : displayOf attributes = "full")
    (layout : layoutOf attributes = none) {page : Page} {widget : Widget}
    (found : page.form.catalog.get? name = some widget) :
    (writeField request source name attributes none).run page =
      ((presented request widget).html none
        (setGiven "value" (request.submission.value? name) attributes),
        page.presenting request name) := by
  have shown : (page.presenting request name).form.catalog.get? name =
      some (presented request widget) := by
    have looked := page.form.catalog.get?_modify name (presented request) (fun _ => rfl) name
    rw [if_pos rfl, found] at looked
    exact looked
  rw [writeField_eq]
  unfold showField
  rw [run_then, present_run, shown]
  dsimp only
  rw [displayOf_setGiven, layoutOf_setGiven, display, layout]
  rfl

/-- A tag that names a field, and says nothing else, shows it whole if it was not emitted. -/
theorem writeNamed_whole (request : Request) {name : String} (filled : name ≠ "") {mark : Tag}
    (attributes : mark.attributes = ⟨[("name", name)]⟩) {page : Page}
    (fresh : page.isEmitted name = false) {widget : Widget}
    (found : page.form.catalog.get? name = some widget) (same : widget.field.name = name) :
    (writeNamed request mark).run page =
      ((presented request widget).html none
        (setGiven "value" (request.submission.value? name) .empty),
        (page.presenting request name).marking name) := by
  have there : page.form.catalog.contains name = true := by
    rw [Catalog.contains, found]
    rfl
  have field : (writeField request mark.source name ⟨[("name", name)]⟩ none).run page = _ :=
    writeField_whole request mark.source rfl rfl found
  have html : (presented request widget).html none
      (setGiven "value" (request.submission.value? name) ⟨[("name", name)]⟩) =
        (presented request widget).html none
          (setGiven "value" (request.submission.value? name) .empty) := by
    rw [← same]
    exact html_named (presented request widget) none _
  have given : ((⟨[("name", name)]⟩ : Attributes).get? "name").getD "" = name := by
    simp [Attributes.get?]
  unfold writeNamed
  rw [attributes]
  dsimp only
  rw [given, run_then, run_get]
  dsimp only
  rw [if_neg filled, there, fresh, Bool.and_false]
  simp only [Bool.not_true, Bool.false_eq_true, if_false]
  rw [run_then, field, html]
  rfl

namespace Standing

variable {request : Request} {started page : Page} {issued : Nat} {emitted : List String}

/-- The widget of a field shows it as the page was started with it. -/
theorem looks (standing : Standing request started issued emitted page) {name : String}
    (known : name ∈ started.form.catalog.names) :
    ∃ widget, page.form.catalog.get? name = some widget ∧ widget.field.name = name ∧
      (presented request widget).html none
        (setGiven "value" (request.submission.value? name) .empty) =
          fieldHtml request started.form.catalog name := by
  rw [Catalog.names, ← standing.fields, ← Catalog.names, ← Catalog.contains_iff] at known
  obtain ⟨widget, found⟩ := Option.isSome_iff_exists.mp known
  have named : widget.field.name = name := by simpa using List.find?_some found
  refine ⟨widget, found, named, ?_⟩
  have same := standing.found name
  rw [found, Option.map_some] at same
  obtain ⟨before, there, shown⟩ := Option.map_eq_some_iff.mp same.symm
  rw [fieldHtml, there, ← shown]
  rfl

/-- A hidden field is shown whole. -/
theorem whole (standing : Standing request started issued emitted page) {name : String}
    (known : name ∈ started.form.catalog.names) (fresh : name ∉ emitted) :
    ((writeWhole request name).run page).1 = fieldHtml request started.form.catalog name ∧
      Standing request started issued (emitted ++ [name])
        ((writeWhole request name).run page).2 := by
  obtain ⟨widget, found, -, shown⟩ := standing.looks known
  have field : (writeField request "" name .empty none).run page = _ :=
    writeField_whole request "" rfl rfl found
  unfold writeWhole
  rw [run_then, field]
  exact ⟨shown, standing.shows fresh⟩

/-- So is a field that a tag names, and says nothing else about. -/
theorem named (standing : Standing request started issued emitted page) {name : String}
    (known : name ∈ started.form.catalog.names) (fresh : name ∉ emitted) (filled : name ≠ "")
    {mark : Tag} (attributes : mark.attributes = ⟨[("name", name)]⟩) :
    ((writeNamed request mark).run page).1 = fieldHtml request started.form.catalog name ∧
      Standing request started issued (emitted ++ [name])
        ((writeNamed request mark).run page).2 := by
  obtain ⟨widget, found, same, shown⟩ := standing.looks known
  have first : page.isEmitted name = false := by
    simpa [isEmitted, standing.emitted] using fresh
  rw [writeNamed_whole request filled attributes first found same]
  exact ⟨shown, standing.shows fresh⟩

end Standing

/-! ## A loop over fields -/

section FieldsLoop

variable (request : Request) (attributes : Attributes)

/-- The fields that the loop is for: those that it lists, if it has a list, of those that
forms of the kind show. -/
def loopFields (catalog : Catalog) : List Field :=
  catalog.fields.filter fun field =>
    isListed attributes field.name && field.isShownIn request.kind

/-- The hidden fields of the loop, in the order of the catalog. -/
def hiddenNames (catalog : Catalog) : List String :=
  if showsHidden attributes then
    ((loopFields request attributes catalog).filter (·.isHidden)).map (·.name)
  else []

/-- The other fields of the loop, in the order of the catalog; if fields that can be changed
come first, both groups are in this order. -/
def visibleNames (catalog : Catalog) : List String :=
  let visible := (loopFields request attributes catalog).filter (!·.isHidden)
  if editableFirst attributes = some true then
    (visible.filter (!·.isReadOnly) ++ visible.filter (·.isReadOnly)).map (·.name)
  else visible.map (·.name)

/-- When nothing was shown yet, the loop shows all of its hidden fields. -/
theorem loopHidden_eq {page : Page} (fresh : page.emitted = []) :
    loopHidden request attributes page =
      ((loopFields request attributes page.form.catalog).filter (·.isHidden)).map (·.name) := by
  unfold loopHidden loopFields
  rw [List.filter_filter]
  dsimp only
  congr 2
  funext field
  simp [isEmitted, fresh, Bool.and_assoc]

/-- The field of a name is found if no two fields share it. -/
theorem get?_of_distinct {catalog : Catalog} (distinct : catalog.names.Nodup) {field : Field}
    (member : field ∈ catalog.fields) :
    (catalog.get? field.name).map (fun widget => widget.field) = some field := by
  have looked := catalog.map_get? id (fun _ => rfl) field.name
  rw [List.map_id] at looked
  refine looked.trans ?_
  have found : (catalog.fields.find? fun other => other.name = field.name).isSome = true :=
    List.find?_isSome.mpr ⟨field, member, by simp⟩
  obtain ⟨other, there⟩ := Option.isSome_iff_exists.mp found
  have named : other.name = field.name := by simpa using List.find?_some there
  rw [there, List.inj_on_of_nodup_map distinct (List.mem_of_find?_eq_some there) member named]

/-- The fields of the loop are fields of the form. -/
theorem loopFields_sublist (catalog : Catalog) :
    (loopFields request attributes catalog).Sublist catalog.fields :=
  List.filter_sublist

/-- What the loop shows first are names of hidden fields. -/
theorem mem_hiddenNames {catalog : Catalog} {name : String}
    (member : name ∈ hiddenNames request attributes catalog) :
    ∃ field ∈ catalog.fields, field.isHidden = true ∧ field.name = name := by
  unfold hiddenNames at member
  split at member
  · obtain ⟨field, there, named⟩ := List.mem_map.mp member
    obtain ⟨taken, hidden⟩ := List.mem_filter.mp there
    exact ⟨field, (loopFields_sublist request attributes catalog).subset taken, hidden, named⟩
  · cases member

/-- What it shows then are names of other fields. -/
theorem mem_visibleNames {catalog : Catalog} {name : String}
    (member : name ∈ visibleNames request attributes catalog) :
    ∃ field ∈ catalog.fields, field.isHidden = false ∧ field.name = name := by
  have shown : name ∈ ((loopFields request attributes catalog).filter (!·.isHidden)).map
      (·.name) := by
    unfold visibleNames at member
    dsimp only at member
    split at member
    · rw [List.map_append, List.mem_append] at member
      rcases member with front | behind
      · exact (List.filter_sublist.map _).subset front
      · exact (List.filter_sublist.map _).subset behind
    · exact member
  obtain ⟨field, there, named⟩ := List.mem_map.mp shown
  obtain ⟨taken, seen⟩ := List.mem_filter.mp there
  exact ⟨field, (loopFields_sublist request attributes catalog).subset taken, by simpa using seen,
    named⟩

/-- No hidden field comes twice. -/
theorem hiddenNames_nodup {catalog : Catalog} (distinct : catalog.names.Nodup) :
    (hiddenNames request attributes catalog).Nodup := by
  unfold hiddenNames
  split
  · exact distinct.sublist
      ((List.filter_sublist.trans (loopFields_sublist request attributes catalog)).map _)
  · exact List.nodup_nil

/-- Nor does any other. -/
theorem visibleNames_nodup {catalog : Catalog} (distinct : catalog.names.Nodup) :
    (visibleNames request attributes catalog).Nodup := by
  have once : (((loopFields request attributes catalog).filter (!·.isHidden)).map
      (·.name)).Nodup :=
    distinct.sublist
      ((List.filter_sublist.trans (loopFields_sublist request attributes catalog)).map _)
  unfold visibleNames
  dsimp only
  split
  · generalize (loopFields request attributes catalog).filter (!·.isHidden) = fields at once ⊢
    have parted := List.filter_append_perm (fun field : Field => !field.isReadOnly) fields
    simp only [Bool.not_not] at parted
    exact (parted.map _).nodup_iff.mpr once
  · exact once

/-- Fields of one name are both hidden or both not. -/
theorem not_mem_hiddenNames {catalog : Catalog} (distinct : catalog.names.Nodup) {field : Field}
    (member : field ∈ catalog.fields) (seen : field.isHidden = false) :
    field.name ∉ hiddenNames request attributes catalog := by
  intro shown
  obtain ⟨other, there, hidden, named⟩ := mem_hiddenNames request attributes shown
  rw [List.inj_on_of_nodup_map distinct there member named, seen] at hidden
  cases hidden

/-- When nothing but the hidden fields was shown, the loop stands for all others. -/
theorem loopVisible_eq {page : Page} {catalog : Catalog}
    (fields : page.form.catalog.fields = catalog.fields) (distinct : catalog.names.Nodup)
    (emitted : page.emitted = hiddenNames request attributes catalog) :
    loopVisible request attributes page = visibleNames request attributes catalog := by
  have accepts : ∀ field ∈ catalog.fields,
      ((page.form.catalog.get? field.name).any (fun widget =>
          !widget.field.isHidden && widget.field.isShownIn request.kind)
        && isListed attributes field.name && !page.isEmitted field.name) =
      ((isListed attributes field.name && field.isShownIn request.kind) && !field.isHidden) := by
    intro field member
    have kept : page.form.catalog.names = catalog.names := by
      rw [Catalog.names, Catalog.names, fields]
    have found := get?_of_distinct (kept ▸ distinct) (fields ▸ member)
    obtain ⟨widget, looked, same⟩ := Option.map_eq_some_iff.mp found
    rw [looked, Option.any_some, same]
    -- A hidden field is ruled out by its kind, and any other was not shown yet.
    cases hidden : field.isHidden with
    | true => simp
    | false =>
      have fresh : page.isEmitted field.name = false := by
        rw [isEmitted, emitted, List.contains_eq_mem, decide_eq_false_iff_not]
        exact not_mem_hiddenNames request attributes distinct member hidden
      simp [fresh, Bool.and_comm]
  have sorted (fields : List Field) (within : fields ⊆ catalog.fields) :
      (fields.map (·.name)).filter (fun name =>
        (page.form.catalog.get? name).any (fun widget =>
            !widget.field.isHidden && widget.field.isShownIn request.kind)
          && isListed attributes name && !page.isEmitted name) =
      ((fields.filter fun field => (isListed attributes field.name && field.isShownIn request.kind)
        && !field.isHidden).map (·.name)) := by
    rw [List.filter_map]
    congr 1
    exact List.filter_congr fun field member => accepts field (within member)
  unfold loopVisible visibleNames loopFields Catalog.sortedNames
  dsimp only
  rw [List.filter_filter]
  split
  · rw [fields, List.partition_eq_filter_filter, sorted]
    · simp only [List.filter_append, List.filter_filter]
      congr 2
      · refine List.filter_congr fun field _ => ?_
        cases readOnly : field.isReadOnly <;> simp [readOnly, Bool.and_comm]
      · refine List.filter_congr fun field _ => ?_
        simp [Bool.and_comm]
    · exact List.append_subset.mpr
        ⟨(List.filter_sublist).subset, (List.filter_sublist).subset⟩
  · rw [Catalog.names, fields, sorted _ (List.Subset.refl _)]
    simp [Bool.and_comm]

end FieldsLoop

/-- The widgets of a form without braces in its names are written without braces. -/
theorem fieldHtml_plain (request : Request) {form : Form} (plain : form.NamesPlain)
    (name : String) : Plain (fieldHtml request form.catalog name) := by
  unfold fieldHtml
  cases found : form.catalog.get? name with
  | none => exact (by decide : Plain "")
  | some widget =>
    have empty : Attributes.empty.NamesPlain := fun _ none => by cases none
    have known : widget.field.NamesPlain := plain.get? found
    have named : (presented request widget).field.NamesPlain := known
    exact Widget.html_plain named none (namesPlain_setGiven _ empty)

/-- So are the hidden fields of a loop. -/
theorem hidden_plain (request : Request) (attributes : Attributes) {form : Form}
    (plain : form.NamesPlain) : Plain (String.join
      ((hiddenNames request attributes form.catalog).map (fieldHtml request form.catalog))) := by
  apply Plain.join
  intro text member
  obtain ⟨name, -, rfl⟩ := List.mem_map.mp member
  exact fieldHtml_plain request plain name

/-- Writes the hidden fields of a loop. -/
def writeLoopHidden (request : Request) (attributes : Attributes) : StateM Page String := do
  if showsHidden attributes then
    writeAll (loopHidden request attributes (← get)) (writeWhole request)
  else return ""

/-- A loop over fields on a fresh page shows its hidden fields. -/
theorem writeLoopHidden_run (request : Request) (attributes : Attributes)
    {page : Page} (fresh : page.emitted = []) (distinct : page.form.catalog.names.Nodup) :
    let fields := page.form.catalog
    let hidden := hiddenNames request attributes fields
    ((writeLoopHidden request attributes).run page).1 =
        String.join (hidden.map (fieldHtml request fields)) ∧
      Standing request page page.issued hidden
        ((writeLoopHidden request attributes).run page).2 := by
  intro fields hidden
  have starts : Standing request page page.issued [] page := ⟨rfl, rfl, rfl, fresh⟩
  have known : ∀ name ∈ hidden, name ∈ fields.names := by
    intro name member
    obtain ⟨field, there, -, rfl⟩ := mem_hiddenNames request attributes member
    exact List.mem_map_of_mem there
  have shown := starts.shows_all (hiddenNames_nodup request attributes distinct)
    (fun _ _ none => by cases none) fun name member _ _ standing unshown =>
      standing.whole (known name member) unshown
  unfold writeLoopHidden
  by_cases shows : showsHidden attributes = true
  · have all : loopHidden request attributes page = hidden := by
      rw [loopHidden_eq request attributes fresh]
      exact (if_pos shows).symm
    rw [if_pos shows, run_then, run_get, all]
    exact shown
  · have none : hidden = [] := if_neg shows
    rw [if_neg shows, none]
    exact ⟨rfl, starts⟩

/-- Then it repeats its body for the others. -/
theorem writeFieldsLoop_run (request : Request) (attributes : Attributes) (body : String)
    {page : Page} (fresh : page.emitted = []) (distinct : page.form.catalog.names.Nodup) :
    let fields := page.form.catalog
    let hidden := hiddenNames request attributes fields
    let visible := visibleNames request attributes fields
    ((writeFieldsLoop request attributes body).run page).1 =
        String.join (hidden.map (fieldHtml request fields)) ++
          String.join (visible.map (nameFirstTag body)) ∧
      Standing request page page.issued hidden
        ((writeFieldsLoop request attributes body).run page).2 := by
  intro fields hidden visible
  have loop : writeFieldsLoop request attributes body = do
      let written ← writeLoopHidden request attributes
      let page ← get
      return written ++
        String.join ((loopVisible request attributes page).map (nameFirstTag body)) := by
    unfold writeFieldsLoop writeLoopHidden
    split <;> simp
  obtain ⟨written, shown⟩ := writeLoopHidden_run request attributes fresh distinct
  have others := loopVisible_eq request attributes shown.fields distinct shown.emitted
  rw [loop, run_then, run_then, run_get]
  dsimp only
  rw [others]
  exact ⟨congrArg (· ++ _) written, shown⟩

end Formwork.Page
