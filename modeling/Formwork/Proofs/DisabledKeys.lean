import Formwork.Proofs.AskedFields
import Formwork.Proofs.PostedRows
import Formwork.Proofs.StartTags

/-!
# Fields of the primary key are shown disabled

A page disables the fields of the primary key before anything else. From then on it
writes nothing into a description but the values taken from rows, so whenever a field
of the key is asked it is disabled still. An input then says so once in each of its
elements: what the description or a tag says under the same name is overlaid. Around
the input a layout puts nothing but its own markup and the label.
-/

namespace Formwork

/-! ## Attributes under one name -/

namespace Attributes

/-- No two pairs share a name. -/
def Distinct (attributes : Attributes) : Prop := (attributes.pairs.map Prod.fst).Nodup

/-- The pairs of a name. -/
def under (name : String) (pairs : List (String × String)) : List (String × String) :=
  pairs.filter fun pair => pair.1 = name

/-- Setting a value keeps names distinct. -/
theorem Distinct.set {attributes : Attributes} (distinct : attributes.Distinct)
    (name value : String) : (attributes.set name value).Distinct := by
  obtain ⟨pairs⟩ := attributes
  unfold Distinct Attributes.set at *
  dsimp only at *
  induction pairs with
  | nil => simp [setPair]
  | cons head rest inductionHypothesis =>
    obtain ⟨first, before⟩ := head
    obtain ⟨absent, later⟩ := List.nodup_cons.mp distinct
    unfold setPair
    by_cases same : first = name
    · rw [if_pos same]
      exact distinct
    · rw [if_neg same]
      refine List.nodup_cons.mpr ⟨fun member => ?_, inductionHypothesis later⟩
      obtain ⟨pair, inside, equal⟩ := List.mem_map.mp member
      rcases mem_setPair inside with rfl | other
      · exact same equal.symm
      · exact absent (List.mem_map.mpr ⟨pair, other, equal⟩)

/-- So does setting many. -/
theorem Distinct.setAll {attributes : Attributes} (distinct : attributes.Distinct)
    (pairs : List (String × String)) : (attributes.setAll pairs).Distinct :=
  List.foldlRecOn pairs _ distinct fun _ before pair _ => before.set pair.1 pair.2

/-- What is set under a name is the only pair of the name. -/
theorem under_set {attributes : Attributes} (distinct : attributes.Distinct)
    (name value : String) : under name (attributes.set name value).pairs = [(name, value)] := by
  obtain ⟨pairs⟩ := attributes
  unfold under Attributes.set
  unfold Distinct at distinct
  dsimp only at distinct ⊢
  induction pairs with
  | nil => simp [setPair]
  | cons head rest inductionHypothesis =>
    obtain ⟨first, before⟩ := head
    obtain ⟨absent, later⟩ := List.nodup_cons.mp distinct
    unfold setPair
    by_cases same : first = name
    · subst same
      have others : rest.filter (fun pair => pair.1 = first) = [] := by
        rw [List.filter_eq_nil_iff]
        intro pair member
        have apart : pair.1 ≠ first := fun equal => absent (List.mem_map.mpr ⟨pair, member, equal⟩)
        simp [apart]
      simp [others]
    · rw [if_neg same, List.filter_cons_of_neg (by simp [same])]
      exact inductionHypothesis later

/-- What is set under another name does not matter. -/
theorem under_set_of_ne {name other : String} (apart : other ≠ name) (attributes : Attributes)
    (value : String) :
    under name (attributes.set other value).pairs = under name attributes.pairs := by
  obtain ⟨pairs⟩ := attributes
  unfold under Attributes.set
  dsimp only
  induction pairs with
  | nil => simp [setPair, apart]
  | cons head rest inductionHypothesis =>
    obtain ⟨first, before⟩ := head
    unfold setPair
    by_cases same : first = other
    · simp [same, apart]
    · rw [if_neg same, List.filter_cons, List.filter_cons, inductionHypothesis]

end Attributes

/-! ## Elements of an input -/

namespace Html

/-- A text without markup characters is written as it stands. -/
theorem escape_of_kept {text : String} (kept : ∀ c ∈ text.toList, escapeChar c = [c]) :
    escape text = text := by
  have same : text.toList.flatMap escapeChar = text.toList.flatMap fun c => [c] := by
    rw [List.flatMap_def, List.flatMap_def, List.map_congr_left kept]
  rw [← String.toList_inj, toList_escape, same, List.flatMap_singleton']

/-- Identifiers of elements hold no markup characters. -/
@[simp] theorem escape_elementId (name : String) : escape (elementId name) = elementId name := by
  refine escape_of_kept fun c member => ?_
  rw [elementId, String.toList_ofList] at member
  have replaced := (List.dropWhile_sublist _).subset (mem_dropUnderscoreRight member)
  obtain ⟨given, -, rfl⟩ := List.mem_map.mp replaced
  split
  · next accepted =>
    have apart {other : Char} (refused : identifierChar other = false) : given ≠ other := by
      rintro rfl
      simp [refused] at accepted
    unfold escapeChar
    split
    all_goals first | exact absurd rfl (apart rfl) | rfl
  · rfl

/-- Names of kinds of input hold no markup characters. -/
@[simp] theorem escape_inputName (input : InputKind) : escape input.name = input.name := by
  cases input <;> rfl

/-- The text of one attribute and others behind it. -/
@[simp] theorem attributesText_cons (name value : String) (rest : List (String × String)) :
    attributesText ((name, value) :: rest) = attributeText name value ++ attributesText rest := by
  simp [attributesText]

/-- No attributes have no text. -/
@[simp] theorem attributesText_nil : attributesText [] = "" := rfl

/-- The text of attributes and others behind them. -/
@[simp] theorem attributesText_append (first second : List (String × String)) :
    attributesText (first ++ second) = attributesText first ++ attributesText second := by
  simp [attributesText]

end Html

/-- What an input is made of. -/
inductive ElementKind where
  /-- One input, or one button or box of a group. -/
  | input
  /-- A list of choices. -/
  | select
  /-- Several lines of text. -/
  | textarea
  /-- Text that cannot be changed. -/
  | span
deriving DecidableEq, Repr

/-- The name of the tag. -/
def ElementKind.tag : ElementKind → String
  | .input => "input"
  | .select => "select"
  | .textarea => "textarea"
  | .span => "span"

/-- One element of an input. -/
structure Element where
  /-- The text in front of it. -/
  before : String
  /-- What it is. -/
  kind : ElementKind
  /-- Its attributes that say what is put in: type, name, identifier, value and mark. -/
  own : List (String × String)
  /-- Its further attributes. -/
  extra : List (String × String)
  /-- The end of its start tag and the text behind. -/
  behind : String

/-- The text of an element. -/
def Element.html (element : Element) : String :=
  element.before ++ "<" ++ element.kind.tag ++ Html.attributesText element.own
    ++ Html.attributesText element.extra ++ element.behind

namespace Widget

/-- The element of one button or box of a group. -/
def choiceElement (input : InputKind) (name value : String) (extra : List (String × String))
    (choice : Choice) : Element where
  before := "<label>"
  kind := .input
  own := [("type", input.name), ("name", name), ("value", choice.value)]
    ++ flagAttribute "checked" (choice.value = value)
  extra := extra
  behind := " /> " ++ Html.escape choice.label ++ "</label>"

/-- The elements of an input: one for each choice of a group, else a single one. -/
def elements (widget : Widget) (attributes : Attributes) : List Element :=
  let input := widget.field.input
  let inputName := widget.inputName attributes
  let typed := [("type", input.name)]
  let id := [("id", Html.elementId inputName)]
  let named := ("name", inputName) :: id
  let value := widget.currentValue attributes
  let extra := (widget.extraAttributes attributes).pairs
  let group := widget.field.choices.map (choiceElement input inputName value extra)
  match input with
  | .textarea => [⟨"", .textarea, named, extra, ">" ++ Html.escape value ++ "</textarea>"⟩]
  | .select =>
    let entries := String.join (widget.field.choices.map (optionHtml value))
    [⟨"", .select, named, extra, ">" ++ entries ++ "</select>"⟩]
  | .radio =>
    if widget.field.choices.isEmpty then
      [⟨"", .input, typed ++ named ++ [("value", value)], extra, " />"⟩]
    else group
  | .checkbox =>
    if widget.field.choices.isEmpty then
      [⟨"", .input, typed ++ named ++ [("value", "1")]
        ++ flagAttribute "checked" (Text.truth? value = some true), extra, " />"⟩]
    else group
  | .plaintext => [⟨"", .span, id, extra, ">" ++ Html.escape value ++ "</span>"⟩]
  | .file | .password => [⟨"", .input, typed ++ named, extra, " />"⟩]
  | _ => [⟨"", .input, typed ++ named ++ [("value", value)], extra, " />"⟩]

/-- A mark is an attribute like others. -/
@[simp] theorem attributesText_flagAttribute (name : String) (holds : Bool) :
    Html.attributesText (flagAttribute name holds) = mark name holds := by
  cases holds <;> simp [flagAttribute, mark]

/-- A button or box of a group is one element. -/
theorem choiceHtml_element (input : InputKind) (name value : String)
    (extra : List (String × String)) (choice : Choice) :
    choiceHtml input name value (Html.attributesText extra) choice =
      (choiceElement input name value extra choice).html := by
  unfold choiceHtml Element.html choiceElement
  generalize checked : (decide (choice.value = value)) = marked
  simp [Html.attributeText, ElementKind.tag, ← String.toList_inj]

/-- An input is the text of its elements. -/
theorem inputHtml_elements (widget : Widget) (attributes : Attributes) :
    widget.inputHtml attributes =
      String.join ((widget.elements attributes).map Element.html) := by
  unfold inputHtml elements
  generalize (widget.extraAttributes attributes).pairs = extra
  generalize widget.inputName attributes = name
  generalize widget.currentValue attributes = value
  generalize widget.field.input = input
  have group : (widget.field.choices.map (choiceElement input name value extra)).map Element.html =
      widget.field.choices.map (choiceHtml input name value (Html.attributesText extra)) := by
    rw [List.map_map]
    exact List.map_congr_left fun choice _ =>
      (choiceHtml_element input name value extra choice).symm
  dsimp only
  cases input with
  | textarea => simp [Element.html, Html.attributeText, ElementKind.tag, ← String.toList_inj]
  | select => simp [Element.html, Html.attributeText, ElementKind.tag, ← String.toList_inj]
  | radio =>
    dsimp only
    split
    · simp [Element.html, Html.attributeText, ElementKind.tag, ← String.toList_inj]
    · rw [group]
  | checkbox =>
    have one : Html.escape "1" = "1" := by decide
    dsimp only
    split
    · simp [one, Element.html, Html.attributeText, ElementKind.tag, ← String.toList_inj]
    · rw [group]
  | _ => simp [Element.html, Html.attributeText, ElementKind.tag, ← String.toList_inj]

/-- Further attributes say once that a disabled input is disabled. -/
theorem extraAttributes_disabled {widget : Widget} (disabled : widget.field.disabled = true)
    (attributes : Attributes) :
    Attributes.under "disabled" (widget.extraAttributes attributes).pairs =
      [("disabled", "disabled")] := by
  unfold extraAttributes
  dsimp only
  have none : Attributes.empty.Distinct := List.nodup_nil
  have described : (Attributes.ofList widget.field.attributes.entries).Distinct := none.setAll _
  have overlaid := described.setAll (attributes.pairs.filter fun pair => !reserved.contains pair.1)
  generalize (Attributes.ofList widget.field.attributes.entries).setAll
    (attributes.pairs.filter fun pair => !reserved.contains pair.1) = own at overlaid ⊢
  have set : Attributes.under "disabled"
      (own.setAll (flagAttribute "disabled" widget.field.disabled)).pairs =
        [("disabled", "disabled")] := by
    rw [disabled]
    exact Attributes.under_set overlaid "disabled" "disabled"
  cases widget.field.required with
  | false => exact set
  | true => exact (Attributes.under_set_of_ne (by decide) _ _).trans set

/-- The elements of an input all have its further attributes, and do not say by
themselves that they are disabled. -/
theorem elements_attributes {widget : Widget} {attributes : Attributes} {element : Element}
    (member : element ∈ widget.elements attributes) :
    element.extra = (widget.extraAttributes attributes).pairs ∧
      Attributes.under "disabled" element.own = [] := by
  have marked (own : List (String × String)) (holds : Bool) :
      Attributes.under "disabled" (own ++ flagAttribute "checked" holds) =
        Attributes.under "disabled" own := by
    cases holds <;> simp [Attributes.under, flagAttribute]
  unfold elements at member
  generalize (widget.extraAttributes attributes).pairs = extra at member ⊢
  generalize widget.field.input = input at member
  dsimp only at member
  have single {own : List (String × String)} {before behind : String} {kind : ElementKind}
      (listed : element ∈ [Element.mk before kind own extra behind])
      (unsaid : Attributes.under "disabled" own = []) :
      element.extra = extra ∧ Attributes.under "disabled" element.own = [] := by
    rw [List.mem_singleton.mp listed]
    exact ⟨rfl, unsaid⟩
  have grouped (listed : element ∈ widget.field.choices.map (choiceElement input
      (widget.inputName attributes) (widget.currentValue attributes) extra)) :
      element.extra = extra ∧ Attributes.under "disabled" element.own = [] := by
    obtain ⟨choice, -, rfl⟩ := List.mem_map.mp listed
    exact ⟨rfl, marked _ _⟩
  cases input with
  | radio =>
    dsimp only at member
    split at member
    · exact single member rfl
    · exact grouped member
  | checkbox =>
    dsimp only at member
    split at member
    · exact single member (marked _ _)
    · exact grouped member
  | _ => exact single member rfl

/-! ## Around an input -/

/-- The names of the elements that a layout and a label are made of. -/
def layoutTags : List String := ["div", "tr", "th", "td", "label"]

/-- The text holds no start tags but those of a layout or a label. -/
def LaysOut (text : String) : Prop :=
  ∃ tags, Html.Holds text tags ∧ ∀ tag ∈ tags, tag.name ∈ layoutTags

/-- Texts that lay out do so one after another. -/
theorem LaysOut.append {first second : String} (left : LaysOut first) (right : LaysOut second) :
    LaysOut (first ++ second) := by
  obtain ⟨tags, here, known⟩ := left
  obtain ⟨others, there, also⟩ := right
  refine ⟨tags ++ others, here.append there, fun tag member => ?_⟩
  rcases List.mem_append.mp member with first | second
  · exact known tag first
  · exact also tag second

/-- A label is one element with an escaped text in it. -/
theorem labelHtml_laysOut (widget : Widget) (attributes : Attributes) :
    LaysOut (widget.labelHtml attributes) := by
  have written (id text : String) :
      LaysOut ("<label for=\"" ++ Html.elementId id ++ "\">" ++ Html.escape text ++ "</label>") := by
    have same : "<label for=\"" ++ Html.elementId id ++ "\">" ++ Html.escape text ++ "</label>" =
        "<" ++ "label" ++ Html.attributesText [("for", Html.elementId id)] ++
          (">" ++ Html.escape text ++ "</label>") := by
      simp [Html.attributeText, ← String.toList_inj]
    have ends : Html.Ends (">" ++ Html.escape text ++ "</label>") [] :=
      .content (fun _ => rfl) (by decide) text
    have named : ∀ name ∈ [("for", Html.elementId id)].map Prod.fst,
        Html.IsAttributeName name := by
      change ∀ name ∈ ["for"], Html.IsAttributeName name
      decide
    rw [same]
    exact ⟨[⟨"label", ["for"]⟩], ends.holds (by decide) (by simp) named, by decide⟩
  unfold labelHtml
  split
  iterate 3 exact ⟨[], rfl, by simp⟩
  exact written _ _

/-- What stands in front of an input lays out, whatever the layout. -/
theorem front_laysOut (widget : Widget) (layout : Option String) (attributes : Attributes) :
    LaysOut (widget.front layout attributes) := by
  have label := widget.labelHtml_laysOut attributes
  have cell : LaysOut "<tr><th>" := ⟨[⟨"tr", []⟩, ⟨"th", []⟩], by decide, by decide⟩
  have next : LaysOut "</th><td>" := ⟨[⟨"td", []⟩], by decide, by decide⟩
  have block : LaysOut ("<div class=\"formField " ++ widget.field.input.name ++ "Field\">") :=
    ⟨[⟨"div", ["class"]⟩], by cases widget.field.input <;> decide, by decide⟩
  unfold front
  split
  · exact ⟨[], rfl, by simp⟩
  · split
    · exact label
    · exact (cell.append label).append next
    · exact block.append label

/-- So does what stands behind it. -/
theorem behind_laysOut (widget : Widget) (layout : Option String) :
    LaysOut (widget.behind layout) := by
  unfold behind
  split
  · exact ⟨[], rfl, by simp⟩
  · split
    iterate 3 exact ⟨[], by decide, by simp⟩

end Widget

/-! ## Descriptions -/

/-- The description without the value taken from a row. -/
def Field.unrendered (field : Field) : Field := { field with renderedValue := none }

/-- The description of a field that cannot be changed. -/
def Field.disable (field : Field) : Field := { field with disabled := true }

namespace Catalog

/-- The descriptions without values taken from rows. -/
def unrendered (catalog : Catalog) : List Field := catalog.fields.map Field.unrendered

/-- A change that only shows a widget or its value leaves the descriptions. -/
theorem unrendered_modify (catalog : Catalog) (name : String) (change : Widget → Widget)
    (keeps : ∀ widget, (change widget).field.unrendered = widget.field.unrendered) :
    (catalog.modify name change).unrendered = catalog.unrendered := by
  simp only [unrendered, fields, List.map_map]
  exact map_modify _ catalog name change keeps

/-- A field of the name is disabled, if there is one. -/
def IsDisabled (name : String) (catalog : Catalog) : Prop :=
  ∀ widget, catalog.get? name = some widget → widget.field.disabled = true

/-- The changed description is found under its name, and all others as they were. -/
theorem get?_modifyField (catalog : Catalog) (name : String) (change : Field → Field)
    (keeps : ∀ field, (change field).name = field.name) (other : String) :
    (catalog.modifyField name change).get? other =
      if other = name then
        (catalog.get? name).map fun widget => { widget with field := change widget.field }
      else catalog.get? other :=
  catalog.get?_modify name _ (fun widget => keeps widget.field) other

/-- A field is disabled after it was. -/
theorem modifyField_isDisabled (catalog : Catalog) (name : String) :
    (catalog.modifyField name Field.disable).IsDisabled name := by
  intro widget found
  rw [get?_modifyField catalog name Field.disable fun _ => rfl, if_pos rfl] at found
  obtain ⟨old, -, rfl⟩ := Option.map_eq_some_iff.mp found
  rfl

/-- It stays disabled when another one is disabled. -/
theorem IsDisabled.modifyField {catalog : Catalog} {name : String}
    (disabled : catalog.IsDisabled name) (other : String) :
    (catalog.modifyField other Field.disable).IsDisabled name := by
  by_cases same : name = other
  · rw [← same]
    exact modifyField_isDisabled catalog name
  · intro widget found
    rw [get?_modifyField catalog other Field.disable fun _ => rfl, if_neg same] at found
    exact disabled widget found

/-- Fields of the primary key are disabled once a page was started. -/
theorem disablePrimary_disables {catalog : Catalog} {name : String} {widget : Widget}
    (found : catalog.get? name = some widget) (primary : widget.field.primary = true) :
    (Page.disablePrimary catalog).IsDisabled name := by
  have named : widget.field.name = name := by simpa using List.find?_some found
  have inside : widget.field ∈ catalog.fields :=
    List.mem_map.mpr ⟨widget, List.mem_of_find?_eq_some found, rfl⟩
  have member : name ∈ catalog.primaryNames :=
    List.mem_map.mpr ⟨widget.field, List.mem_filter.mpr ⟨inside, primary⟩, named⟩
  exact foldl_of_mem member (modifyField_isDisabled · name)
    (fun _ other disabled => disabled.modifyField other) catalog

end Catalog

namespace Page

/-- The fields keep the descriptions with which the page was started, and every showing
is one of such a field. -/
structure Described (catalog : Catalog) (page : Page) (showings : List Showing) : Prop where
  /-- The fields of the page. -/
  fields : page.form.catalog.unrendered = catalog.unrendered
  /-- The fields that were asked. -/
  asked : ∀ showing ∈ showings, ∃ widget, catalog.get? showing.name = some widget ∧
    showing.widget.field.unrendered = widget.field.unrendered

/-- A field that is found on the page has the description of the one it was started with. -/
theorem Described.found {catalog : Catalog} {page : Page} {showings : List Showing}
    (described : Described catalog page showings) {name : String} {widget : Widget}
    (found : page.form.catalog.get? name = some widget) :
    ∃ before, catalog.get? name = some before ∧
      widget.field.unrendered = before.field.unrendered := by
  have here := page.form.catalog.map_get? Field.unrendered (fun _ => rfl) name
  have there := catalog.map_get? Field.unrendered (fun _ => rfl) name
  rw [← Catalog.unrendered, described.fields, Catalog.unrendered, ← there, found] at here
  obtain ⟨before, looked, same⟩ := Option.map_eq_some_iff.mp here.symm
  exact ⟨before, looked, same.symm⟩

/-- One more field is asked. -/
theorem Described.asks {request : Request} {catalog : Catalog} {showing : Showing}
    {before after : Page} {showings noted : List Showing}
    (described : Described catalog before showings)
    (asked : Asked request showing before showings after noted) :
    Described catalog after noted := by
  have fields : after.form.catalog.unrendered = catalog.unrendered := by
    rw [asked.catalog, ← described.fields]
    exact before.form.catalog.unrendered_modify showing.name _ fun _ => rfl
  refine ⟨fields, ?_⟩
  rw [asked.noted]
  intro other member
  rcases List.mem_append.mp member with earlier | last
  · exact described.asked other earlier
  · rw [List.mem_singleton.mp last]
    exact Described.found ⟨fields, described.asked⟩ asked.widget

/-- Descriptions last while a page is written. -/
theorem described_lasts (request : Request) (catalog : Catalog) :
    Lasting request (Described catalog) where
  beside unasked described := by
    refine ⟨?_, ?_⟩
    · rw [unasked.catalog]
      exact described.fields
    · rw [unasked.noted]
      exact described.asked
  cells row page showings described := by
    refine ⟨?_, described.asked⟩
    rw [← described.fields]
    refine List.foldlRecOn row.cells _ (motive := fun noted : Catalog =>
      noted.unrendered = page.form.catalog.unrendered) rfl fun noted same cell _ => ?_
    rw [← same]
    exact noted.unrendered_modify cell.1 _ fun _ => rfl
  inRow _ asked _ described := described.asks asked
  elsewhere _ _ counted described := described.asks counted.toAsked

/-- Whatever is asked while a page is written is a field of the form as it was when the
page was started. -/
theorem showings_described (request : Request) (template : String) (page : Page) :
    (noteRender request template).run (page, []) =
        (((render request template).run page).1, ((render request template).run page).2,
          showings request template page) ∧
      Described (disablePrimary page.form.catalog) ((render request template).run page).2
        (showings request template page) := by
  have starts : Described (disablePrimary page.form.catalog) page.start [] :=
    ⟨rfl, fun _ member => by cases member⟩
  obtain ⟨noted, same, described⟩ := (described_lasts request _).render template page starts
  have listed : showings request template page = noted := by
    rw [showings, same]
  rw [listed]
  exact ⟨same, described⟩

/-! ## Inputs of the primary key -/

/-- What is written for the showing in front of its input. -/
def Showing.front (showing : Showing) : String :=
  match showing.part with
  | .whole layout => showing.widget.front layout showing.attributes
  | _ => ""

/-- What is written for the showing behind its input. -/
def Showing.behind (showing : Showing) : String :=
  match showing.part with
  | .whole layout => showing.widget.behind layout
  | _ => ""

/-- Where the input is written it is written as it stands alone, and at most laid out
with its label. -/
theorem Showing.text_eq {showing : Showing} (shown : showing.hasInput = true) :
    showing.text =
        showing.front ++ showing.widget.inputHtml showing.attributes ++ showing.behind ∧
      Widget.LaysOut showing.front ∧ Widget.LaysOut showing.behind := by
  unfold hasInput at shown
  unfold text front behind
  split at shown
  · rename_i layout whole
    simp only [whole]
    exact ⟨Widget.html_eq _ _ _, Widget.front_laysOut _ _ _, Widget.behind_laysOut _ _⟩
  · rename_i alone
    simp only [alone, String.empty_append, String.append_empty]
    exact ⟨trivial, ⟨[], rfl, by simp⟩, ⟨[], rfl, by simp⟩⟩
  · cases shown
  · cases shown

/-- No page offers a field of the primary key for change. Writing a page and listing what
is asked of fields gives the page, and whatever is asked is a field of the form, but for
the value shown in a row and for being disabled. If it belongs to the key and its input
is written, then it is disabled at that moment, and what is written are the elements of
the input, laid out with a label at most. Each of the elements says that it is disabled
exactly once among its further attributes, whatever the description and the tag say.

Proof: descriptions last from the start of the page, where the key was disabled, and
the attribute is set behind all that was given. -/
theorem primary_inputs_disabled (request : Request) (template : String) (page : Page) :
    (noteRender request template).run (page, []) =
        (((render request template).run page).1, ((render request template).run page).2,
          showings request template page) ∧
      ∀ showing ∈ showings request template page, ∃ widget,
        page.form.catalog.get? showing.name = some widget ∧
          showing.widget.field.settled = widget.field.settled ∧
          (widget.field.primary = true → showing.hasInput = true →
            showing.widget.field.disabled = true ∧
              showing.text =
                showing.front ++ showing.widget.inputHtml showing.attributes ++ showing.behind ∧
              Widget.LaysOut showing.front ∧ Widget.LaysOut showing.behind ∧
              showing.widget.inputHtml showing.attributes =
                String.join ((showing.widget.elements showing.attributes).map Element.html) ∧
              ∀ element ∈ showing.widget.elements showing.attributes,
                Attributes.under "disabled" element.own = [] ∧
                  Attributes.under "disabled" element.extra = [("disabled", "disabled")]) := by
  obtain ⟨same, -, asked⟩ := showings_described request template page
  refine ⟨same, fun showing member => ?_⟩
  obtain ⟨started, found, described⟩ := asked showing member
  have here := page.form.catalog.map_get? Field.settled (fun _ => rfl) showing.name
  have there :=
    (disablePrimary page.form.catalog).map_get? Field.settled (fun _ => rfl) showing.name
  have kept : (disablePrimary page.form.catalog).settled = page.form.catalog.settled :=
    (start_calm page).form.fields
  rw [← Catalog.settled, kept, Catalog.settled, ← here, found] at there
  obtain ⟨widget, known, settled⟩ := Option.map_eq_some_iff.mp there.symm
  refine ⟨widget, known, ?_, fun primary shown => ?_⟩
  · calc
      showing.widget.field.settled = showing.widget.field.unrendered.settled := rfl
      _ = started.field.unrendered.settled := by rw [described]
      _ = widget.field.settled := settled.symm
  · have disabled : showing.widget.field.disabled = true := by
      have off := Catalog.disablePrimary_disables known primary started found
      exact (congrArg Field.disabled described).trans off
    obtain ⟨written, front, behind⟩ := Showing.text_eq shown
    refine ⟨disabled, written, front, behind, Widget.inputHtml_elements _ _,
      fun element listed => ?_⟩
    obtain ⟨extra, unsaid⟩ := Widget.elements_attributes listed
    rw [extra]
    exact ⟨unsaid, Widget.extraAttributes_disabled disabled showing.attributes⟩

/-- A form with a key whose description says that it is not disabled. -/
def keyForm : Form where
  name := "key"
  catalog := ⟨[{ field := {
    name := "id", primary := true, attributes := .ofList [("disabled", "no")] } }]⟩
  insertTemplate := ""
  editTemplate := ""
  browserValidation := true

/-- A template whose tag says the same. -/
def keyTemplate : String := "\x7bfield name=\"id\" disabled=\"false\"\x7d"

/-- What the tag asks for. -/
def keyShowing : Showing where
  occasion := .named
  name := "id"
  widget := { field := {
      name := "id", primary := true, disabled := true, attributes := .ofList [("disabled", "no")] }
              shownIn := some .update
              formId := some "form1" }
  attributes := ⟨[("name", "id"), ("disabled", "false")]⟩
  part := .whole none

/-- The tag asks for a field of the key, which is disabled all the same, in the block
that it is laid out in. -/
theorem key_disabled_against_tag :
    keyShowing ∈ showings noteRequest keyTemplate { form := keyForm } ∧
      keyShowing.hasInput = true ∧
      keyShowing.widget.field.disabled = true ∧
      keyShowing.text =
        keyShowing.front ++ keyShowing.widget.inputHtml keyShowing.attributes ++
          keyShowing.behind ∧
      keyShowing.behind = "</div>" ∧
      ∀ element ∈ keyShowing.widget.elements keyShowing.attributes,
        Attributes.under "disabled" element.own = [] ∧
          Attributes.under "disabled" element.extra = [("disabled", "disabled")] := by
  have shown : showings noteRequest keyTemplate { form := keyForm } = [keyShowing] := by
    decide +kernel
  have member : keyShowing ∈ showings noteRequest keyTemplate { form := keyForm } := by
    rw [shown]
    exact List.mem_singleton_self keyShowing
  obtain ⟨widget, found, settled, disabled⟩ :=
    (primary_inputs_disabled noteRequest keyTemplate { form := keyForm }).2 keyShowing member
  have primary : widget.field.primary = true := (congrArg Field.primary settled).symm
  obtain ⟨off, written, -, -, -, elements⟩ := disabled primary rfl
  exact ⟨member, rfl, off, written, by decide, elements⟩

end Page

end Formwork
