import Formwork.Proofs.DisabledKeys
import Formwork.Proofs.StartTags
import Mathlib.Data.List.Nodup

/-!
# Names of attributes in start tags

An input writes attributes of its own, then those that its description and its tag give.
The given ones are overlaid by name and stand once each, but only those of the tag are
checked against a few names that inputs write by themselves, and those of the description
against none. So a start tag repeats a name exactly when one of the names that its input
writes by itself is given. The start tag of a form removes the two names that it writes by
itself from whatever is given; its data attributes are written behind all others and
checked against none of them.
-/

namespace Formwork

/-! ## Names of attributes -/

namespace Attributes

/-- The names, in order. -/
def names (attributes : Attributes) : List String := attributes.pairs.map Prod.fst

instance (attributes : Attributes) : Decidable attributes.Distinct :=
  inferInstanceAs (Decidable (List.Nodup _))

/-- A value that is set leaves the names as they are, or adds its own at the end. -/
theorem names_set (attributes : Attributes) (name value : String) :
    (attributes.set name value).names =
      if name ∈ attributes.names then attributes.names else attributes.names ++ [name] := by
  obtain ⟨pairs⟩ := attributes
  unfold names set
  dsimp only
  induction pairs with
  | nil => simp [setPair]
  | cons head rest inductionHypothesis =>
    obtain ⟨first, before⟩ := head
    unfold setPair
    by_cases same : first = name
    · subst same
      simp
    · rw [if_neg same, List.map_cons, List.map_cons, inductionHypothesis]
      have further : name ∈ first :: rest.map Prod.fst ↔ name ∈ rest.map Prod.fst := by
        simp [Ne.symm same]
      simp only [further]
      split <;> rfl

/-- So it adds its name. -/
theorem mem_names_set {attributes : Attributes} {name value other : String} :
    other ∈ (attributes.set name value).names ↔ other ∈ attributes.names ∨ other = name := by
  rw [names_set]
  split
  · rename_i there
    exact ⟨.inl, fun either => either.elim id fun same => same ▸ there⟩
  · rw [List.mem_append, List.mem_singleton]

/-- Values that are set one after another add their names. -/
theorem mem_names_setAll {attributes : Attributes} {pairs : List (String × String)}
    {other : String} :
    other ∈ (attributes.setAll pairs).names ↔
      other ∈ attributes.names ∨ other ∈ pairs.map Prod.fst := by
  induction pairs generalizing attributes with
  | nil => simp [setAll]
  | cons head rest inductionHypothesis =>
    obtain ⟨first, value⟩ := head
    have next : attributes.setAll ((first, value) :: rest) =
        (attributes.set first value).setAll rest := rfl
    rw [next, inductionHypothesis, mem_names_set, List.map_cons, List.mem_cons]
    tauto

/-- Attributes collected from pairs have their names. -/
theorem mem_names_ofList {pairs : List (String × String)} {other : String} :
    other ∈ (ofList pairs).names ↔ other ∈ pairs.map Prod.fst := by
  rw [ofList, mem_names_setAll]
  simp [names, empty]

/-- A name is left out. -/
theorem names_erase (attributes : Attributes) (name : String) :
    (attributes.erase name).names = attributes.names.erase name := by
  have same : (fun pair : String × String => decide (pair.1 = name)) =
      (name == ·) ∘ Prod.fst := by
    funext pair
    rw [Function.comp_apply, beq_eq_decide, decide_eq_decide, eq_comm]
  rw [names, names, List.erase_eq_eraseP, List.eraseP_map, ← same]
  rfl

/-- Without one of its names, attributes are distinct still. -/
theorem Distinct.erase {attributes : Attributes} (distinct : attributes.Distinct)
    (name : String) : (attributes.erase name).Distinct := by
  change (attributes.erase name).names.Nodup
  rw [names_erase]
  exact List.Nodup.erase name distinct

/-- A name that is left out is there no more, and all others are. -/
theorem mem_names_erase {attributes : Attributes} (distinct : attributes.Distinct)
    {name other : String} :
    other ∈ (attributes.erase name).names ↔ other ≠ name ∧ other ∈ attributes.names := by
  rw [names_erase]
  exact List.Nodup.mem_erase_iff distinct

end Attributes

/-! ## Start tags of inputs -/

namespace Element

/-- The names that the element writes by itself, in order. -/
def ownNames (element : Element) : List String := element.own.map Prod.fst

/-- The start tag of an element. -/
def startTag (element : Element) : Html.StartTag :=
  { name := element.kind.tag, attributes := element.ownNames ++ element.extra.map Prod.fst }

/-- The start tag of an element is read as it was written, between those in front of it and those
behind it. -/
theorem holds {element : Element} (own : element.own ≠ [])
    (named : ∀ name ∈ element.startTag.attributes, Html.IsAttributeName name)
    {before behind : List Html.StartTag} (front : Html.Holds element.before before)
    (rest : Html.Ends element.behind behind) :
    Html.Holds element.html (before ++ element.startTag :: behind) := by
  have given : element.own ++ element.extra ≠ [] := by simp [own]
  have opens : Html.follow (.content, []) ("<" ++ element.kind.tag) =
      (.tagName element.kind.tag.toList, []) := by
    cases element.kind <;> decide
  rw [startTag, ownNames, ← List.map_append] at named ⊢
  have whole : element.html = element.before ++
      ("<" ++ element.kind.tag ++ Html.attributesText (element.own ++ element.extra) ++
        element.behind) := by
    simp [html, String.append_assoc]
  rw [whole]
  exact front.append (rest.holds opens given named)

end Element

namespace Widget

/-- The names that a description and a tag give to the attributes of an input. -/
def givenNames (widget : Widget) (attributes : Attributes) : List String :=
  widget.field.attributes.keys ++ attributes.names.filter fun name => !reserved.contains name

/-- Further attributes have the given names, and say what state the input is in. -/
theorem mem_names_extraAttributes {widget : Widget} {attributes : Attributes} {name : String} :
    name ∈ (widget.extraAttributes attributes).names ↔
      name ∈ widget.givenNames attributes ∨ name = "disabled" ∧ widget.field.disabled = true ∨
        name = "required" ∧ widget.field.required = true := by
  have flagged (flag : String) (holds : Bool) :
      name ∈ (flagAttribute flag holds).map Prod.fst ↔ name = flag ∧ holds = true := by
    cases holds <;> simp [flagAttribute]
  have own : name ∈ (attributes.pairs.filter fun pair => !reserved.contains pair.1).map Prod.fst ↔
      name ∈ attributes.names.filter fun name => !reserved.contains name := by
    rw [Attributes.names, List.filter_map]
    rfl
  rw [extraAttributes, Attributes.mem_names_setAll, Attributes.mem_names_setAll,
    Attributes.mem_names_setAll, Attributes.mem_names_ofList, flagged, flagged, own, givenNames,
    List.mem_append, TextMap.keys, or_assoc]

/-- Further attributes have different names. -/
theorem extraAttributes_distinct (widget : Widget) (attributes : Attributes) :
    (widget.extraAttributes attributes).Distinct := by
  have none : Attributes.empty.Distinct := List.nodup_nil
  exact (((none.setAll _).setAll _).setAll _).setAll _

/-- The names that elements of inputs write by themselves. -/
def writtenNames : List String := ["type", "name", "id", "value", "checked"]

/-- An entry of a list of choices holds its start tag, which repeats no name. -/
theorem optionHtml_holds (value : String) (choice : Choice) :
    Html.Holds (optionHtml value choice)
      [⟨"option", "value" :: (flagAttribute "selected" (choice.value = value)).map Prod.fst⟩] := by
  have named : ∀ name ∈
      (("value", choice.value) :: flagAttribute "selected" (choice.value = value)).map Prod.fst,
      Html.IsAttributeName name := by
    cases decide (choice.value = value) <;> simp only [flagAttribute, List.map_cons] <;> decide
  have closes : Html.Ends ">" [] := fun _ => rfl
  have closed : Html.Holds "</option>" [] := by decide
  have whole : optionHtml value choice = "<" ++ "option" ++
      Html.attributesText
        (("value", choice.value) :: flagAttribute "selected" (choice.value = value)) ++
      (">" ++ Html.escape choice.label ++ "</option>") := by
    unfold optionHtml
    generalize (decide (choice.value = value)) = marked
    simp [Html.attributeText, ← String.toList_inj]
  rw [whole]
  exact (closes.content closed choice.label).holds (by decide) (List.cons_ne_nil _ _) named

/-- What an element writes by itself: some of the names, each once. The text around its start tag
holds start tags that repeat no name. -/
structure WrittenBy (element : Element) : Prop where
  /-- There are attributes of its own. -/
  some : element.own ≠ []
  /-- Their names, in order. -/
  own : element.ownNames.Sublist writtenNames
  /-- The start tags around. -/
  around : ∃ before behind, Html.Holds element.before before ∧ Html.Ends element.behind behind ∧
    ∀ tag ∈ before ++ behind, tag.attributes.Nodup

/-- So do all elements of an input. -/
theorem elements_writtenBy {widget : Widget} {attributes : Attributes} {element : Element}
    (member : element ∈ widget.elements attributes) : WrittenBy element := by
  have closes : Html.Ends ">" [] := fun _ => rfl
  have empty : Html.Ends " />" [] := fun _ => rfl
  have nothing : Html.Holds "" [] := rfl
  have checked {own : List (String × String)} (marked : Bool)
      (listed : (own.map Prod.fst ++ ["checked"]).Sublist writtenNames) :
      ((own ++ flagAttribute "checked" marked).map Prod.fst).Sublist writtenNames := by
    refine List.Sublist.trans ?_ listed
    rw [List.map_append]
    refine List.Sublist.append_left ?_ _
    cases marked <;> simp [flagAttribute]
  unfold elements at member
  generalize (widget.extraAttributes attributes).pairs = extra at member
  generalize widget.inputName attributes = name at member
  generalize widget.currentValue attributes = value at member
  generalize widget.field.input = input at member
  dsimp only at member
  have single {kind : ElementKind} {own : List (String × String)} {behind : String}
      (listed : element ∈ [Element.mk "" kind own extra behind]) (some : own ≠ [])
      (names : (own.map Prod.fst).Sublist writtenNames) {tags : List Html.StartTag}
      (ends : Html.Ends behind tags) (distinct : ∀ tag ∈ tags, tag.attributes.Nodup) :
      WrittenBy element := by
    rw [List.mem_singleton.mp listed]
    exact ⟨some, names, [], tags, nothing, ends, distinct⟩
  have grouped
      (listed : element ∈ widget.field.choices.map (choiceElement input name value extra)) :
      WrittenBy element := by
    obtain ⟨choice, -, rfl⟩ := List.mem_map.mp listed
    have opened : Html.Holds "<label>" [⟨"label", []⟩] := by decide
    have closed : Html.Holds "</label>" [] := by decide
    have ends : Html.Ends " /> " [] := fun _ => rfl
    exact ⟨by simp [choiceElement], checked _ (by simp [writtenNames]), _, _, opened,
      ends.content closed choice.label, by decide⟩
  cases input with
  | textarea =>
    have closed : Html.Holds "</textarea>" [] := by decide
    exact single member (by simp) (by simp [writtenNames]) (closes.content closed value) (by simp)
  | select =>
    have closed : Html.Holds "</select>" [] := by decide
    have entries := Html.holds_join widget.field.choices fun choice _ =>
      optionHtml_holds value choice
    refine single member (by simp) (by simp [writtenNames]) ((closes.append entries).append closed) ?_
    intro tag listed
    rw [List.nil_append, List.append_nil] at listed
    obtain ⟨choice, -, same⟩ := List.mem_flatMap.mp listed
    rw [List.mem_singleton.mp same]
    cases decide (choice.value = value) <;> decide
  | radio =>
    dsimp only at member
    split at member
    · exact single member (by simp) (by simp [writtenNames]) empty (by simp)
    · exact grouped member
  | checkbox =>
    dsimp only at member
    split at member
    · exact single member (by simp) (checked _ (by simp [writtenNames])) empty (by simp)
    · exact grouped member
  | plaintext =>
    have closed : Html.Holds "</span>" [] := by decide
    exact single member (by simp) (by simp [writtenNames]) (closes.content closed value) (by simp)
  | _ => exact single member (by simp) (by simp [writtenNames]) empty (by simp)

/-- An element's start tag repeats no name unless the element is given one of its own. -/
theorem startTag_nodup_iff {widget : Widget} {attributes : Attributes} {element : Element}
    (member : element ∈ widget.elements attributes) :
    element.startTag.attributes.Nodup ↔
      ∀ name ∈ element.ownNames, name ∉ widget.givenNames attributes := by
  have written := (elements_writtenBy member).own
  have distinct : writtenNames.Nodup := by decide
  rw [Element.startTag, (elements_attributes member).1, List.nodup_append]
  constructor
  · rintro ⟨-, -, apart⟩ name own given
    exact apart name own name (mem_names_extraAttributes.mpr (.inl given)) rfl
  · intro ungiven
    refine ⟨written.nodup distinct, widget.extraAttributes_distinct attributes, ?_⟩
    rintro name own _ extra rfl
    obtain given | ⟨rfl, -⟩ | ⟨rfl, -⟩ := mem_names_extraAttributes.mp extra
    · exact ungiven name own given
    · exact absurd (written.subset own) (by decide)
    · exact absurd (written.subset own) (by decide)

/-- The start tags of an element repeat no name exactly when its own start tag repeats none. -/
theorem element_startTags {widget : Widget} {attributes : Attributes} {element : Element}
    (member : element ∈ widget.elements attributes)
    (named : ∀ name ∈ widget.givenNames attributes, Html.IsAttributeName name) :
    Html.Holds element.html (Html.startTags element.html) ∧
      ((∀ tag ∈ Html.startTags element.html, tag.attributes.Nodup) ↔
        element.startTag.attributes.Nodup) := by
  obtain ⟨some, own, before, behind, front, rest, distinct⟩ := elements_writtenBy member
  have ownNamed : ∀ name ∈ writtenNames, Html.IsAttributeName name := by decide
  have allNamed : ∀ name ∈ element.startTag.attributes, Html.IsAttributeName name := by
    intro name listed
    rw [Element.startTag, (elements_attributes member).1, List.mem_append] at listed
    obtain written | extra := listed
    · exact ownNamed name (own.subset written)
    · obtain given | ⟨rfl, -⟩ | ⟨rfl, -⟩ := mem_names_extraAttributes.mp extra
      · exact named name given
      · decide
      · decide
  have holds := Element.holds some allNamed front rest
  rw [holds.startTags_eq]
  refine ⟨holds, fun all => all _ (by simp), fun single tag listed => ?_⟩
  obtain inFront | rfl | later : tag ∈ before ∨ tag = element.startTag ∨ tag ∈ behind := by
    simpa using listed
  · exact distinct tag (List.mem_append_left _ inFront)
  · exact single
  · exact distinct tag (List.mem_append_right _ later)

/-- The start tags of an input repeat no name unless an element is given a name of its own. -/
theorem inputHtml_nodup_iff {widget : Widget} {attributes : Attributes}
    (named : ∀ name ∈ widget.givenNames attributes, Html.IsAttributeName name) :
    (∀ tag ∈ Html.startTags (widget.inputHtml attributes), tag.attributes.Nodup) ↔
      ∀ element ∈ widget.elements attributes, ∀ name ∈ element.ownNames,
        name ∉ widget.givenNames attributes := by
  have joined := Html.holds_join (widget.elements attributes) fun element member =>
    (element_startTags member named).1
  rw [inputHtml_elements, joined.startTags_eq]
  constructor
  · intro all element member
    refine (startTag_nodup_iff member).mp ((element_startTags member named).2.mp fun tag read => ?_)
    exact all tag (List.mem_flatMap.mpr ⟨element, member, read⟩)
  · intro ungiven tag listed
    obtain ⟨element, member, read⟩ := List.mem_flatMap.mp listed
    exact (element_startTags member named).2.mpr
      ((startTag_nodup_iff member).mpr (ungiven element member)) tag read

end Widget

/-! ## The start tag of a form -/

namespace Page

/-- An attribute that may be absent adds its name if it is there. -/
theorem mem_names_setGiven {name other : String} {value : Option String} {attributes : Attributes} :
    other ∈ (setGiven name value attributes).names ↔
      other ∈ attributes.names ∨ value.isSome = true ∧ other = name := by
  cases value with
  | none => simp [setGiven]
  | some value => simp [setGiven, Attributes.mem_names_set]

/-- Setting it keeps names distinct. -/
theorem setGiven_distinct {attributes : Attributes} (distinct : attributes.Distinct)
    (name : String) (value : Option String) : (setGiven name value attributes).Distinct := by
  cases value with
  | none => exact distinct
  | some value => exact distinct.set name value

/-- The names of data attributes, in order. -/
def dataNames (options : PageOptions) : List String :=
  options.dataAttributes.names.map ("data-" ++ ·)

/-- Names of data attributes are none that forms write otherwise. -/
theorem dataNames_apart {options : PageOptions} {name : String} (data : name ∈ dataNames options) :
    name ∉ ["action", "method", "enctype", "rel", "rev", "novalidate"] := by
  obtain ⟨key, -, rfl⟩ := List.mem_map.mp data
  have others : ∀ fixed ∈ ["action", "method", "enctype", "rel", "rev", "novalidate"],
      ¬ "data-".toList <+: fixed.toList := by decide
  intro listed
  refine others _ listed ?_
  rw [String.toList_append]
  exact List.prefix_append _ _

/-- The attributes that a tag gives a form, with what the options and the form say besides. -/
def tagAttributes (request : Request) (form : Form) (attributes : Attributes) : Attributes :=
  setGiven "novalidate" (if form.browserValidation then none else some "")
    (setGiven "rev" request.options.rev (setGiven "rel" request.options.rel attributes))

/-- The attributes of the start tag of a form that are given by the options, the form and the tag,
in this order: the two names that the start tag writes by itself are left out of them. -/
def givenAttributes (request : Request) (form : Form) (attributes : Attributes) : Attributes :=
  let base := (request.options.formAttributes.erase "action").erase "method"
  (setGiven "enctype" form.encoding base).merge
    (((tagAttributes request form attributes).erase "action").erase "method")

/-- Given attributes have different names. -/
theorem givenAttributes_distinct {request : Request} {form : Form} {attributes : Attributes}
    (distinct : request.options.formAttributes.Distinct) :
    (givenAttributes request form attributes).Distinct :=
  (setGiven_distinct ((distinct.erase "action").erase "method") "enctype" form.encoding).setAll _

/-- The names of given attributes. -/
theorem mem_names_givenAttributes {request : Request} {attributes : Attributes}
    (optionsDistinct : request.options.formAttributes.Distinct)
    (tagDistinct : attributes.Distinct) (form : Form) (name : String) :
    name ∈ (givenAttributes request form attributes).names ↔
      name ≠ "action" ∧ name ≠ "method" ∧
        (name ∈ request.options.formAttributes.names ∨ name ∈ attributes.names ∨
          form.encoding.isSome = true ∧ name = "enctype" ∨
          request.options.rel.isSome = true ∧ name = "rel" ∨
          request.options.rev.isSome = true ∧ name = "rev" ∨
          form.browserValidation = false ∧ name = "novalidate") := by
  have marked : (if form.browserValidation then none else some "" : Option String).isSome = true ↔
      form.browserValidation = false := by
    cases form.browserValidation <;> simp
  have distinct : (tagAttributes request form attributes).Distinct :=
    setGiven_distinct (setGiven_distinct (setGiven_distinct tagDistinct _ _) _ _) _ _
  have apart : "enctype" ≠ "action" ∧ "enctype" ≠ "method" := by decide
  rw [givenAttributes, Attributes.merge, Attributes.mem_names_setAll, ← Attributes.names,
    mem_names_setGiven, Attributes.mem_names_erase (optionsDistinct.erase "action"),
    Attributes.mem_names_erase optionsDistinct, Attributes.mem_names_erase (distinct.erase "action"),
    Attributes.mem_names_erase distinct, tagAttributes, mem_names_setGiven, mem_names_setGiven,
    mem_names_setGiven, marked]
  constructor
  · rintro ((⟨method, action, given⟩ | ⟨encoded, rfl⟩) |
      ⟨method, action, ((tag | rel) | rev) | unchecked⟩)
    · exact ⟨action, method, .inl given⟩
    · exact ⟨apart.1, apart.2, .inr (.inr (.inl ⟨encoded, rfl⟩))⟩
    · exact ⟨action, method, .inr (.inl tag)⟩
    · exact ⟨action, method, .inr (.inr (.inr (.inl rel)))⟩
    · exact ⟨action, method, .inr (.inr (.inr (.inr (.inl rev))))⟩
    · exact ⟨action, method, .inr (.inr (.inr (.inr (.inr unchecked))))⟩
  · rintro ⟨action, method, given | tag | encoded | rel | rev | unchecked⟩
    · exact .inl (.inl ⟨method, action, given⟩)
    · exact .inr ⟨method, action, .inl (.inl (.inl tag))⟩
    · exact .inl (.inr encoded)
    · exact .inr ⟨method, action, .inl (.inl (.inr rel))⟩
    · exact .inr ⟨method, action, .inl (.inr rev)⟩
    · exact .inr ⟨method, action, .inr unchecked⟩

/-- The attributes that the start tag of a form has by itself. -/
def ownAttributes (request : Request) (form : Form) (attributes : Attributes) :
    List (String × String) :=
  let asked := (tagAttributes request form attributes).get? "action"
  let action := (request.options.action.or asked).or form.action
  (action.map fun address => ("action", address)).toList ++ [("method", "post")]

/-- Their names. -/
theorem ownAttributes_names (request : Request) (form : Form) (attributes : Attributes) :
    ((ownAttributes request form attributes).map Prod.fst).Sublist ["action", "method"] := by
  unfold ownAttributes
  dsimp only
  cases (request.options.action.or _).or form.action <;> simp

/-- The start tag of a form is read as its own attributes, those given, and those of data. -/
theorem formTag_holds {request : Request} {form : Form} {attributes : Attributes}
    (named : ∀ name ∈ (givenAttributes request form attributes).names ++ dataNames request.options,
      Html.IsAttributeName name) :
    Html.Holds (formTag request form attributes)
      [⟨"form", (ownAttributes request form attributes).map Prod.fst ++
        (givenAttributes request form attributes).names ++ dataNames request.options⟩] := by
  generalize written : (givenAttributes request form attributes).pairs = given
  have whole : formTag request form attributes =
      "<" ++ "form" ++ Html.attributesText (ownAttributes request form attributes ++ given ++
        request.options.dataAttributes.pairs.map fun pair => ("data-" ++ pair.1, pair.2)) ++
          ">" := by
    have posted : Html.attributeText "method" "post" = " method=\"post\"" := by decide
    rw [← written]
    unfold formTag ownAttributes givenAttributes tagAttributes
    dsimp only
    cases (request.options.action.or _).or form.action <;> simp [posted, ← String.toList_inj]
  have data : (request.options.dataAttributes.pairs.map fun pair =>
      ("data-" ++ pair.1, pair.2)).map Prod.fst = dataNames request.options := by
    simp [dataNames, Attributes.names]
  have ends : Html.Ends ">" [] := fun _ => rfl
  have own : ownAttributes request form attributes ≠ [] := by simp [ownAttributes]
  rw [whole, Attributes.names, written, ← data, ← List.map_append, ← List.map_append]
  refine ends.holds (by decide) (by simp [own]) ?_
  intro name listed
  rw [List.map_append, List.map_append, data, List.append_assoc, List.mem_append] at listed
  obtain itself | others := listed
  · have fixed : ∀ name ∈ ["action", "method"], Html.IsAttributeName name := by decide
    exact fixed name ((ownAttributes_names request form attributes).subset itself)
  · rw [Attributes.names, written] at named
    exact named name others

/-- Names of data attributes are different. -/
theorem dataNames_nodup {options : PageOptions} (distinct : options.dataAttributes.Distinct) :
    (dataNames options).Nodup := by
  refine List.Nodup.map (fun left right same => ?_) distinct
  rwa [← String.toList_inj, String.toList_append, String.toList_append, List.append_cancel_left_eq,
    String.toList_inj] at same

section

variable {request : Request} {attributes : Attributes}
  (optionsDistinct : request.options.formAttributes.Distinct) (tagDistinct : attributes.Distinct)
include optionsDistinct tagDistinct

/-- Among given attributes, a name of a data attribute is given by the options or the tag. -/
theorem dataName_mem_givenAttributes (form : Form) {name : String}
    (data : name ∈ dataNames request.options) :
    name ∈ (givenAttributes request form attributes).names ↔
      name ∈ request.options.formAttributes.names ∨ name ∈ attributes.names := by
  have apart := dataNames_apart data
  simp only [List.mem_cons, List.not_mem_nil, or_false, not_or] at apart
  rw [mem_names_givenAttributes optionsDistinct tagDistinct]
  tauto

/-- The start tag of a form repeats no name unless a data attribute is given under its whole name
beside. -/
theorem formTag_nodup_iff (form : Form) (dataDistinct : request.options.dataAttributes.Distinct)
    (named : ∀ name ∈ request.options.formAttributes.names ++ attributes.names ++
      dataNames request.options, Html.IsAttributeName name) :
    (∀ tag ∈ Html.startTags (formTag request form attributes), tag.attributes.Nodup) ↔
      ∀ name ∈ dataNames request.options,
        name ∉ request.options.formAttributes.names ∧ name ∉ attributes.names := by
  have given := mem_names_givenAttributes optionsDistinct tagDistinct form
  have dataGiven {name : String} (data : name ∈ dataNames request.options) :=
    dataName_mem_givenAttributes optionsDistinct tagDistinct form data
  have read : ∀ name ∈ (givenAttributes request form attributes).names ++
      dataNames request.options, Html.IsAttributeName name := by
    intro name listed
    rw [List.mem_append, given] at listed
    rcases listed with ⟨-, -, other | tag | ⟨-, rfl⟩ | ⟨-, rfl⟩ | ⟨-, rfl⟩ | ⟨-, rfl⟩⟩ | data
    · exact named name (by simp [other])
    · exact named name (by simp [tag])
    · decide
    · decide
    · decide
    · decide
    · exact named name (by simp [data])
  have own := ownAttributes_names request form attributes
  have fixed : ["action", "method"].Nodup := by decide
  rw [(formTag_holds read).startTags_eq, List.forall_mem_singleton, List.nodup_append,
    List.nodup_append]
  constructor
  · rintro ⟨-, -, apart⟩ name data
    have absent : name ∉ (givenAttributes request form attributes).names := fun listed =>
      apart name (List.mem_append_right _ listed) name data rfl
    rwa [dataGiven data, not_or] at absent
  · intro ungiven
    refine ⟨⟨own.nodup fixed, givenAttributes_distinct optionsDistinct, ?_⟩,
      dataNames_nodup dataDistinct, ?_⟩
    · rintro name itself _ listed rfl
      obtain ⟨action, method, -⟩ := (given name).mp listed
      simpa [action, method] using own.subset itself
    · rintro name listed _ data rfl
      obtain itself | merged := List.mem_append.mp listed
      · have prefixed : ["action", "method"] ⊆
            ["action", "method", "enctype", "rel", "rev", "novalidate"] := by decide
        exact dataNames_apart data (prefixed (own.subset itself))
      · exact not_or.mpr (ungiven name data) ((dataGiven data).mp merged)

end

/-- When start tags repeat a name. If all names that are given can be names of attributes, then the
start tags of an input repeat none exactly when the description and the tag give none of the names
that an element of the input writes by itself; the tag can give those that are reserved. The start
tag of a form repeats none exactly when no data attribute is given once more under its whole name,
by the options or by the tag.

Proof: a start tag is read as the attributes that it was written from, and those that are given have
different names, because they are overlaid by name. -/
theorem start_tags_repeat_none_iff (widget : Widget) (fieldTag : Attributes) (request : Request)
    (form : Form) (tag : Attributes) :
    ((∀ name ∈ widget.givenNames fieldTag, Html.IsAttributeName name) →
      ((∀ read ∈ Html.startTags (widget.inputHtml fieldTag), read.attributes.Nodup) ↔
        ∀ element ∈ widget.elements fieldTag, ∀ name ∈ element.ownNames,
          name ∉ widget.givenNames fieldTag)) ∧
    (request.options.formAttributes.Distinct → request.options.dataAttributes.Distinct →
      tag.Distinct →
      (∀ name ∈ request.options.formAttributes.names ++ tag.names ++ dataNames request.options,
        Html.IsAttributeName name) →
          ((∀ read ∈ Html.startTags (formTag request form tag), read.attributes.Nodup) ↔
            ∀ name ∈ dataNames request.options,
              name ∉ request.options.formAttributes.names ∧ name ∉ tag.names)) := by
  constructor
  · exact Widget.inputHtml_nodup_iff
  · intro optionsDistinct dataDistinct tagDistinct named
    exact formTag_nodup_iff optionsDistinct tagDistinct form dataDistinct named

/-- A field whose description gives a title. -/
def titledWidget : Widget :=
  { field := { name := "town", attributes := .ofList [("title", "Your town")] } }

/-- A tag that renames the field and gives it a class. -/
def renamingTag : Attributes := ⟨[("name", "city"), ("class", "wide")]⟩

/-- Options that give a form a class and a data attribute. -/
def classRequest : Request :=
  { noteRequest with
    options := { formAttributes := ⟨[("class", "wide")]⟩, dataAttributes := ⟨[("id", "7")]⟩ } }

/-- Neither the field nor the form with that tag repeats a name. -/
theorem titled_city_repeats_none :
    (∀ read ∈ Html.startTags (titledWidget.inputHtml renamingTag), read.attributes.Nodup) ∧
      ∀ read ∈ Html.startTags (formTag classRequest keyForm renamingTag),
        read.attributes.Nodup := by
  obtain ⟨input, opening⟩ :=
    start_tags_repeat_none_iff titledWidget renamingTag classRequest keyForm renamingTag
  constructor
  · exact (input (by decide)).mpr (by decide)
  · exact (opening (by decide) (by decide) (by decide) (by decide)).mpr (by decide)

/-- A field whose description gives it another name. -/
def renamedWidget : Widget :=
  { field := { name := "a", attributes := .ofList [("name", "b")] } }

/-- The start tag of the field has both names. -/
theorem renamed_repeats_name :
    Html.startTags (renamedWidget.inputHtml .empty) =
        [⟨"input", ["type", "name", "id", "value", "name"]⟩] ∧
      ¬ ∀ tag ∈ Html.startTags (renamedWidget.inputHtml .empty), tag.attributes.Nodup := by
  decide +kernel

end Page

end Formwork
