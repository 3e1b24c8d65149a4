import Formwork.Diagnostics
import Formwork.Form.Basic
import Formwork.Proofs.PostedRows
import Formwork.Proofs.TagSequence

/-!
# Markup without braces

Every value, label and choice is escaped before it is shown, and escaping leaves
no brace. What is written as it stands are names: those of attributes, which come
from the tag or from the description of the field. If the names in a description
hold no brace, then its widget writes none, whatever value it shows and whatever
tag asks for it.
-/

namespace Formwork

open Text (Plain plain_append)

/-! ## Escaped texts, names and numbers -/

namespace Html

/-- Escaping leaves no character that begins or ends markup, a value or a template tag. -/
theorem mem_escape {text : String} {c : Char} (member : c ∈ (escape text).toList) :
    c ∉ ['<', '>', '"', '\x27', '\x7b', '\x7d'] := by
  rw [toList_escape, List.mem_flatMap] at member
  obtain ⟨given, -, written⟩ := member
  have entity {chars : List Char}
      (harmless : chars.all (· ∉ ['<', '>', '"', '\x27', '\x7b', '\x7d']) = true)
      (inside : c ∈ chars) : c ∉ ['<', '>', '"', '\x27', '\x7b', '\x7d'] :=
    of_decide_eq_true (List.all_eq_true.mp harmless c inside)
  unfold escapeChar at written
  split at written
  · exact entity (by decide) written
  · exact entity (by decide) written
  · exact entity (by decide) written
  · exact entity (by decide) written
  · exact entity (by decide) written
  · exact entity (by decide) written
  · exact entity (by decide) written
  · rw [List.mem_singleton.mp written]
    simp_all

/-- Escaping leaves no brace. -/
@[simp] theorem escape_plain (text : String) : Plain (escape text) := by
  intro c member
  have harmless := mem_escape member
  simp only [List.mem_cons, not_or] at harmless
  exact Tag.isPlain_iff.mpr ⟨harmless.2.2.2.2.1, harmless.2.2.2.2.2.1⟩

/-- Leaving out underscores adds no character. -/
theorem mem_dropUnderscoreRight {chars : List Char} {c : Char}
    (member : c ∈ dropUnderscoreRight chars) : c ∈ chars := by
  induction chars with
  | nil => exact member
  | cons first rest inductionHypothesis =>
    unfold dropUnderscoreRight at member
    cases kept : dropUnderscoreRight rest with
    | nil =>
      simp only [kept] at member
      split at member
      · cases member
      · rw [List.mem_singleton.mp member]
        exact List.mem_cons_self
    | cons second others =>
      simp only [kept] at member
      rw [kept] at inductionHypothesis
      rcases List.mem_cons.mp member with rfl | later
      · exact List.mem_cons_self
      · exact List.mem_cons_of_mem _ (inductionHypothesis later)

/-- Element identifiers hold no brace. -/
@[simp] theorem elementId_plain (name : String) : Plain (elementId name) := by
  intro c member
  rw [elementId, String.toList_ofList] at member
  have replaced := (List.dropWhile_sublist _).subset (mem_dropUnderscoreRight member)
  obtain ⟨given, -, rfl⟩ := List.mem_map.mp replaced
  split
  · rename_i accepted
    exact Tag.isPlain_of_test rfl rfl accepted
  · decide

/-- An attribute with a plain name is plain, whatever its value. -/
theorem attributeText_plain {name : String} (named : Plain name) (value : String) :
    Plain (attributeText name value) := by
  unfold attributeText
  simp +decide [named]

/-- Attributes with plain names are plain. -/
theorem attributesText_plain {pairs : List (String × String)}
    (named : ∀ pair ∈ pairs, Plain pair.1) : Plain (attributesText pairs) := by
  apply Text.Plain.join
  intro text member
  obtain ⟨pair, there, rfl⟩ := List.mem_map.mp member
  exact attributeText_plain (named pair there) pair.2

end Html

/-- Digits are no braces. -/
theorem Decimal.natText_plain (n : Nat) : Plain (natText n) := by
  intro c member
  rw [natText, String.toList_ofList] at member
  exact Tag.isPlain_of_test rfl rfl (Nat.isDigit_of_mem_toDigits (by omega) (by omega) member)

/-- Row identifiers hold no brace. -/
theorem Form.rowIdentifier_plain (key : PrimaryKey) : Plain (rowIdentifier key) := by
  intro c member
  rw [Tag.isPlain_iff]
  constructor
  · rintro rfl
    exact rowIdentifier_lacks (by decide) key member
  · rintro rfl
    exact rowIdentifier_lacks (by decide) key member

/-- A shown message holds no brace. -/
theorem Diagnostics.itemHtml_plain (level : Level) (message : String) :
    Plain (itemHtml level message) := by
  have styled : Plain level.styleClass := by
    cases level <;> decide
  unfold itemHtml
  simp +decide [styled]

/-- Reports about the input of a form hold no brace. -/
theorem Diagnostics.errorsHtml_plain (diagnostics : Diagnostics) (scope : String) :
    Plain (diagnostics.errorsHtml scope) := by
  unfold errorsHtml listHtml
  split
  · decide
  · have items : Plain (String.join ((diagnostics.errorsIn scope).map (itemHtml .error))) := by
      apply Text.Plain.join
      intro text member
      obtain ⟨message, -, rfl⟩ := List.mem_map.mp member
      exact itemHtml_plain .error message
    simp +decide [items]

/-! ## Attributes -/

namespace Attributes

/-- Writing a pair leaves the others. -/
theorem mem_setPair {name value : String} {pairs : List (String × String)} {pair : String × String}
    (member : pair ∈ setPair name value pairs) : pair = (name, value) ∨ pair ∈ pairs := by
  induction pairs with
  | nil => exact .inl (List.mem_singleton.mp member)
  | cons head rest inductionHypothesis =>
    obtain ⟨other, before⟩ := head
    unfold setPair at member
    split at member
    · rename_i same
      subst same
      rcases List.mem_cons.mp member with written | later
      · exact .inl written
      · exact .inr (List.mem_cons_of_mem _ later)
    · rcases List.mem_cons.mp member with rfl | later
      · exact .inr List.mem_cons_self
      · exact (inductionHypothesis later).imp_right (List.mem_cons_of_mem _)

/-- Pairs that were written one after another are among those before or those
written. -/
theorem mem_setAll {attributes : Attributes} {pairs : List (String × String)}
    {pair : String × String} (member : pair ∈ (attributes.setAll pairs).pairs) :
    pair ∈ attributes.pairs ∨ pair ∈ pairs := by
  induction pairs generalizing attributes with
  | nil => exact .inl member
  | cons head rest inductionHypothesis =>
    rcases inductionHypothesis member with before | later
    · rcases mem_setPair before with rfl | earlier
      · exact .inr List.mem_cons_self
      · exact .inl earlier
    · exact .inr (List.mem_cons_of_mem _ later)

/-- A value is not found under the name of another one. -/
theorem get?_set_of_ne {name other : String} (apart : name ≠ other) (attributes : Attributes)
    (value : String) : (attributes.set name value).get? other = attributes.get? other := by
  obtain ⟨pairs⟩ := attributes
  unfold get? set
  dsimp only
  congr 1
  induction pairs with
  | nil => simp [setPair, apart]
  | cons head rest inductionHypothesis =>
    obtain ⟨first, before⟩ := head
    unfold setPair
    split
    · rename_i same
      subst same
      simp [apart]
    · simp only [List.find?_cons, inductionHypothesis]

/-- No name holds a brace. -/
def NamesPlain (attributes : Attributes) : Prop := ∀ pair ∈ attributes.pairs, Plain pair.1

/-- Neither a name nor a value holds a brace. -/
def AllPlain (attributes : Attributes) : Prop :=
  ∀ pair ∈ attributes.pairs, Plain pair.1 ∧ Plain pair.2

/-- Attributes without braces have names without braces. -/
theorem AllPlain.names {attributes : Attributes} (plain : attributes.AllPlain) :
    attributes.NamesPlain := fun pair member => (plain pair member).1

/-- A value may be written under a plain name. -/
theorem NamesPlain.set {attributes : Attributes} (plain : attributes.NamesPlain) {name : String}
    (named : Plain name) (value : String) : (attributes.set name value).NamesPlain := by
  intro pair member
  rcases mem_setPair member with rfl | before
  · exact named
  · exact plain pair before

/-- A plain value may be written under a plain name. -/
theorem AllPlain.set {attributes : Attributes} (plain : attributes.AllPlain) {name value : String}
    (named : Plain name) (valued : Plain value) : (attributes.set name value).AllPlain := by
  intro pair member
  rcases mem_setPair member with rfl | before
  · exact ⟨named, valued⟩
  · exact plain pair before

/-- A value that is found is plain. -/
theorem AllPlain.get? {attributes : Attributes} (plain : attributes.AllPlain) {name value : String}
    (found : attributes.get? name = some value) : Plain value := by
  obtain ⟨pair, there, rfl⟩ := Option.map_eq_some_iff.mp found
  exact (plain pair (List.mem_of_find?_eq_some there)).2

/-- A quoted value is part of the text that it is read from. -/
theorem mem_quotedValue? {chars value : List Char} {length : Nat}
    (found : quotedValue? chars = some (value, length)) {c : Char} (member : c ∈ value) :
    c ∈ chars := by
  unfold quotedValue? at found
  split at found
  · rename_i afterEquals equals
    split at found
    · rename_i quote body opened
      dsimp only at found
      split at found
      · split at found
        · obtain ⟨rfl, -⟩ := Prod.mk.inj (Option.some.inj found)
          apply (List.dropWhile_sublist Text.isBlank).subset
          rw [equals]
          apply List.mem_cons_of_mem
          apply (List.dropWhile_sublist Text.isBlank).subset
          rw [opened]
          exact List.mem_cons_of_mem _ ((List.takeWhile_sublist _).subset member)
        · cases found
      · cases found
    · cases found
  · cases found

/-- Pairs that are read from characters have plain names, and values from among the
characters. -/
theorem mem_scanPairs {covered : Nat} {chars : List Char} {pair : String × String}
    (member : pair ∈ scanPairs covered chars) :
    Plain pair.1 ∧ ∀ c ∈ pair.2.toList, c ∈ chars := by
  induction chars generalizing covered with
  | nil => cases member
  | cons first rest inductionHypothesis =>
    have further {covered : Nat} (later : pair ∈ scanPairs covered rest) :
        Plain pair.1 ∧ ∀ c ∈ pair.2.toList, c ∈ first :: rest := by
      obtain ⟨named, valued⟩ := inductionHypothesis later
      exact ⟨named, fun c inside => List.mem_cons_of_mem _ (valued c inside)⟩
    cases covered with
    | succ covered => exact further member
    | zero =>
      unfold scanPairs at member
      split at member
      · rename_i starts
        have named : Plain (String.ofList (first :: rest.takeWhile continuesName)) := by
          intro c inside
          rw [String.toList_ofList] at inside
          rcases List.mem_cons.mp inside with rfl | later
          · exact Tag.isPlain_of_test rfl rfl starts
          · exact Tag.isPlain_of_test rfl rfl (List.all_eq_true.mp List.all_takeWhile c later)
        dsimp only at member
        split at member
        · rename_i value length found
          rcases List.mem_cons.mp member with rfl | later
          · refine ⟨named, fun c inside => ?_⟩
            rw [String.toList_ofList] at inside
            have behind := mem_quotedValue? found inside
            exact List.mem_cons_of_mem _ ((List.dropWhile_sublist _).subset behind)
          · exact further later
        · rcases List.mem_cons.mp member with rfl | later
          · exact ⟨named, fun c inside => by cases inside⟩
          · exact further later
      · exact further member

/-- Attributes that are read from a plain text hold no brace. -/
theorem parse_allPlain {text : String} (plain : Plain text) : (parse text).AllPlain := by
  intro pair member
  rcases mem_setAll member with none | read
  · cases none
  · obtain ⟨named, valued⟩ := mem_scanPairs read
    exact ⟨named, fun c inside => plain c (valued c inside)⟩

/-- Attributes without braces are written without braces. -/
theorem AllPlain.toSource {attributes : Attributes} (plain : attributes.AllPlain) :
    Plain attributes.toSource := by
  have joined {texts : List String} (each : ∀ text ∈ texts, Plain text) :
      Plain (Text.joinWith " " texts) := by
    induction texts with
    | nil => decide
    | cons text rest inductionHypothesis =>
      obtain ⟨here, others⟩ := List.forall_mem_cons.mp each
      cases rest with
      | nil => exact here
      | cons next rest =>
        exact plain_append.mpr ⟨plain_append.mpr ⟨here, by decide⟩, inductionHypothesis others⟩
  apply joined
  intro text member
  obtain ⟨pair, there, rfl⟩ := List.mem_map.mp member
  obtain ⟨named, valued⟩ := plain pair there
  simp +decide [named, valued]

end Attributes

/-! ## Widgets -/

/-- The names that are written as they stand hold no brace: that of the field and
those of its further attributes. -/
structure Field.NamesPlain (field : Field) : Prop where
  /-- The name of the field. -/
  name : Plain field.name
  /-- The names of its further attributes. -/
  attributes : ∀ entry ∈ field.attributes.entries, Plain entry.1

/-- Kinds of input have names without braces. -/
@[simp] theorem InputKind.name_plain (input : InputKind) : Plain input.name := by
  cases input <;> decide

namespace Widget

/-- Further attributes of an input have plain names. -/
theorem extraAttributes_plain {widget : Widget} (plain : widget.field.NamesPlain)
    {attributes : Attributes} (named : attributes.NamesPlain) :
    (widget.extraAttributes attributes).NamesPlain := by
  have flagged {name : String} (plain : Plain name) {holds : Bool} {pair : String × String}
      (member : pair ∈ flagAttribute name holds) : Plain pair.1 := by
    unfold flagAttribute at member
    split at member
    · rw [List.mem_singleton.mp member]
      exact plain
    · cases member
  intro pair member
  unfold extraAttributes at member
  rcases Attributes.mem_setAll member with before | required
  · rcases Attributes.mem_setAll before with earlier | disabled
    · rcases Attributes.mem_setAll earlier with described | own
      · rcases Attributes.mem_setAll described with none | entry
        · cases none
        · exact plain.attributes pair entry
      · exact named pair (List.mem_filter.mp own).1
    · exact flagged (by decide) disabled
  · exact flagged (by decide) required

/-- A mark with a plain name is plain, set or not. -/
theorem mark_plain {name : String} (plain : Plain name) (set : Bool) : Plain (mark name set) := by
  cases set with
  | false => exact (by decide : Plain "")
  | true => exact Html.attributeText_plain plain name

/-- An entry of a list of choices holds no brace. -/
theorem optionHtml_plain (value : String) (choice : Choice) : Plain (optionHtml value choice) := by
  have selected : Plain (mark "selected" (choice.value = value)) := mark_plain (by decide) _
  unfold optionHtml
  simp +decide [selected]

/-- A button or checkbox of a group holds no brace. -/
theorem choiceHtml_plain (input : InputKind) (name value : String) {extra : String}
    (plain : Plain extra) (choice : Choice) :
    Plain (choiceHtml input name value extra choice) := by
  have checked : Plain (mark "checked" (choice.value = value)) := mark_plain (by decide) _
  unfold choiceHtml
  simp +decide [checked, plain]

/-- An input holds no brace. -/
theorem inputHtml_plain {widget : Widget} (plain : widget.field.NamesPlain)
    {attributes : Attributes} (named : attributes.NamesPlain) :
    Plain (widget.inputHtml attributes) := by
  have extra : Plain (Html.attributesText (widget.extraAttributes attributes).pairs) :=
    Html.attributesText_plain (extraAttributes_plain plain named)
  have checked (set : Bool) : Plain (mark "checked" set) := mark_plain (by decide) set
  have options (value : String) :
      Plain (String.join (widget.field.choices.map (optionHtml value))) := by
    apply Text.Plain.join
    intro text member
    obtain ⟨choice, -, rfl⟩ := List.mem_map.mp member
    exact optionHtml_plain value choice
  have group (input : InputKind) (name value : String) :
      Plain (String.join (widget.field.choices.map (choiceHtml input name value
        (Html.attributesText (widget.extraAttributes attributes).pairs)))) := by
    apply Text.Plain.join
    intro text member
    obtain ⟨choice, -, rfl⟩ := List.mem_map.mp member
    exact choiceHtml_plain input name value extra choice
  unfold inputHtml
  generalize Html.attributesText (widget.extraAttributes attributes).pairs = further at extra group ⊢
  dsimp only
  split
  · simp +decide [extra]
  · simp +decide [extra, options]
  · split
    · simp +decide [extra]
    · exact group _ _ _
  · split
    · simp +decide [checked, extra]
    · exact group _ _ _
  · simp +decide [extra]
  · simp +decide [extra]
  · simp +decide [extra]
  · simp +decide [extra]

/-- A label holds no brace. -/
theorem labelHtml_plain (widget : Widget) (attributes : Attributes) :
    Plain (widget.labelHtml attributes) := by
  unfold labelHtml
  split
  · decide
  · decide
  · decide
  · simp +decide

/-- A widget holds no brace, in any layout. -/
theorem html_plain {widget : Widget} (plain : widget.field.NamesPlain) (layout : Option String)
    {attributes : Attributes} (named : attributes.NamesPlain) :
    Plain (widget.html layout attributes) := by
  have input := inputHtml_plain plain named
  have label := labelHtml_plain widget attributes
  unfold html
  dsimp only
  split
  · exact input
  · split
    · exact plain_append.mpr ⟨label, input⟩
    · simp +decide [label, input]
    · simp +decide [label, input]

end Widget

end Formwork
