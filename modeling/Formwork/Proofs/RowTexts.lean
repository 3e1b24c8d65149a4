import Formwork.Proofs.AskedFields
import Formwork.Proofs.SpelledTexts

/-!
# What is written for one row

A row is written in two rounds, fields of plain text in the second. Neither round moves a
token, and all that a row does to its page besides reporting and counting is to tell widgets
where they are shown. So a row is made of one text for each token of its body, in order, and
each of these depends on the token, the row and the fields of the form alone, as if the token
were the only one.
-/

namespace Formwork

/-- Lists related to a list between them are related. -/
theorem forall₂_through {α β γ : Type} {first : α → β → Prop} {second : β → γ → Prop}
    {whole : α → γ → Prop}
    (through : ∀ item part value, first item part → second part value → whole item value)
    {items : List α} {parts : List β} {values : List γ} (left : List.Forall₂ first items parts)
    (right : List.Forall₂ second parts values) : List.Forall₂ whole items values := by
  induction left generalizing values with
  | nil =>
    cases right
    exact .nil
  | cons here rest inductionHypothesis =>
    cases right with
    | cons here' rest' => exact .cons (through _ _ _ here here') (inductionHypothesis rest')

namespace Page

/-! ## Identifiers in a row -/

/-- A body of plain text asks for no identifier. -/
theorem fillRowId_plain (rowId : String) {body : String} (plain : Text.Plain body) :
    fillRowId rowId body = body :=
  Token.join_plain plain fun _ => rfl

/-- A tag that asks for the row's identifier is replaced by it, and every other tag is left; what
stands in front of a tag and behind it is filled in for itself. -/
theorem fillRowId_tag (rowId front : String) {mark : Tag} (spelled : mark.Spelled)
    (behind : String) :
    fillRowId rowId (front ++ (mark.source ++ behind)) =
      fillRowId rowId front ++ (if mark.opens "rowLoopID" then rowId else mark.source) ++
        fillRowId rowId behind := by
  unfold fillRowId
  rw [Token.tokenize_tag front spelled behind]
  simp [String.append_assoc]

/-! ## Fields in a row -/

/-- What a widget shows to a tag: the whole field, its input or its label. A tag that asks for
something else is left with its source. -/
def shownText (widget : Widget) (source : String) (attributes : Attributes) : String :=
  match displayOf attributes with
  | "full" => widget.html (layoutOf attributes) attributes
  | "field" => widget.inputHtml attributes
  | "label" => widget.labelHtml attributes
  | _ => source

/-- The attributes of a tag in a row: the name is that of the field with the row's identifier in
brackets. -/
def rowAttributes (mark : Tag) (name rowId : String) : Attributes :=
  mark.attributes.set "name" (name ++ "[" ++ rowId ++ "]")

/-- The value of a field in a row: the one that was posted for it in this row, else the text of
the row's first cell in the column of its name, else nothing. -/
def cellValue (request : Request) (row : Row) (rowId name : String) : String :=
  (request.submission.rowValue? name rowId).getD (((row.get? name).map Cell.formText).getD "")

/-- The text that stands in a row for a token of the body. -/
inductive RowText (request : Request) (catalog : Catalog) (row : Row) (rowId : String) :
    Token → String → Prop where
  /-- Text between tags stands for itself. -/
  | text (content : String) : RowText request catalog row rowId (.text content) content
  /-- So does a tag for something else than a field. -/
  | other {mark : Tag} (other : mark.opens "field" = false) :
      RowText request catalog row rowId (.tag mark) mark.source
  /-- So does a tag for a field whose name is no word. -/
  | nameless {mark : Tag} (opens : mark.opens "field" = true)
      (wordless : ∀ name, mark.attributes.get? "name" = some name → Text.isWord name = false) :
      RowText request catalog row rowId (.tag mark) mark.source
  /-- Nothing stands for a field that the form does not have. -/
  | unknown {mark : Tag} {name : String} (opens : mark.opens "field" = true)
      (named : mark.attributes.get? "name" = some name) (word : Text.isWord name = true)
      (absent : catalog.get? name = none) : RowText request catalog row rowId (.tag mark) ""
  /-- A field stands with the name of its row, and with its value in this row. -/
  | cell {mark : Tag} {name : String} {widget : Widget} (opens : mark.opens "field" = true)
      (named : mark.attributes.get? "name" = some name) (word : Text.isWord name = true)
      (found : catalog.get? name = some widget) (input : widget.field.input ≠ .plaintext) :
      RowText request catalog row rowId (.tag mark)
        (shownText (presented request widget) (mark.withAttributes (rowAttributes mark name rowId)).source
          ((rowAttributes mark name rowId).set "value" (cellValue request row rowId name)))
  /-- A field of plain text stands with the name of its row, and with the value that was posted
  for it outside of rows, if there is one. -/
  | plain {mark : Tag} {name : String} {widget : Widget} (opens : mark.opens "field" = true)
      (named : mark.attributes.get? "name" = some name) (word : Text.isWord name = true)
      (found : catalog.get? name = some widget) (plain : widget.field.input = .plaintext) :
      RowText request catalog row rowId (.tag mark)
        (shownText (presented request widget) (mark.withAttributes (rowAttributes mark name rowId)).source
          (setGiven "value" (request.submission.value? name) (rowAttributes mark name rowId)))

section Rows

variable {request : Request} {row : Row} {rowId : String}

/-- One text alone stands for a token. -/
theorem RowText.unique {catalog : Catalog} {token : Token} {text other : String}
    (first : RowText request catalog row rowId token text)
    (second : RowText request catalog row rowId token other) : text = other := by
  cases first <;> cases second <;> simp_all

/-- The name of the field that a tag in a row stands for. -/
theorem rowFieldName?_eq_some_iff {mark : Tag} {name : String} :
    rowFieldName? mark = some name ↔ mark.opens "field" = true ∧
      mark.attributes.get? "name" = some name ∧ Text.isWord name = true := by
  unfold rowFieldName?
  split
  · rename_i opens
    simp [opens, Option.filter_eq_some_iff]
  · rename_i other
    simp [other]

/-- A tag in a row that stands for no field is left. -/
theorem RowText.left {mark : Tag} (none : rowFieldName? mark = none) (catalog : Catalog) :
    RowText request catalog row rowId (.tag mark) mark.source := by
  cases opens : mark.opens "field" with
  | false => exact .other opens
  | true =>
    refine .nameless opens fun name named => ?_
    rw [← Bool.not_eq_true]
    intro word
    rw [rowFieldName?_eq_some_iff.mpr ⟨opens, named, word⟩] at none
    cases none

/-! ## What a row does to its page -/

/-- Widgets are told where they are shown, and no field is counted as emitted. -/
structure Presenting (request : Request) (before after : Page) : Prop where
  /-- Once they are told, the widgets are the same. -/
  widgets : ∀ name, (after.form.catalog.get? name).map (presented request) =
    (before.form.catalog.get? name).map (presented request)
  /-- The same fields count as emitted. -/
  emitted : after.emitted = before.emitted

instance (request : Request) : IsPreorder Page (Presenting request) where
  refl _ := ⟨fun _ => rfl, rfl⟩
  trans _ _ _ left right :=
    ⟨fun name => (right.widgets name).trans (left.widgets name), right.emitted.trans left.emitted⟩

/-- Changes beside the form and what is emitted. -/
theorem Presenting.beside {before after : Page} (form : after.form = before.form)
    (emitted : after.emitted = before.emitted) : Presenting request before after :=
  ⟨fun name => by rw [form], emitted⟩

/-- Reporting is beside them. -/
theorem report_presenting (level : Level) (message : String) :
    Within (Presenting request) (report level message) :=
  .step fun _ => .beside rfl rfl

/-- A widget is told where it is shown. -/
theorem present_presenting (name : String) : Within (Presenting request) (present request name) := by
  intro page
  refine ⟨fun other => ?_, rfl⟩
  rw [present_run]
  have looked := page.form.catalog.get?_modify name (presented request) (fun _ => rfl) other
  change ((page.form.catalog.modify name (presented request)).get? other).map (presented request) = _
  rw [looked]
  split
  · rename_i same
    rw [same, Option.map_map]
    rfl
  · rfl

/-- Showing a field does no more. -/
theorem across_presenting : AcrossFields request (Presenting request) where
  reports := report_presenting .debug
  presents := present_presenting

/-- Nor does settling a token. -/
theorem settlePart_presenting (token : Token) :
    Within (Presenting request) (settlePart request row rowId token) :=
  across_presenting.part row rowId token

/-- Nor does writing what was left for later. -/
theorem finishPart_presenting (part : RowPart) :
    Within (Presenting request) (finishPart request part) :=
  across_presenting.late part

/-- A text stands for a token as well once some widgets are told where they are shown. -/
theorem RowText.presenting {before after : Page} (presenting : Presenting request before after)
    {token : Token} {text : String} :
    RowText request after.form.catalog row rowId token text ↔
      RowText request before.form.catalog row rowId token text := by
  have through {left right : Page}
      (same : ∀ name, (left.form.catalog.get? name).map (presented request) =
        (right.form.catalog.get? name).map (presented request))
      (stands : RowText request left.form.catalog row rowId token text) :
      RowText request right.form.catalog row rowId token text := by
    have widget {name : String} {widget : Widget}
        (found : left.form.catalog.get? name = some widget) :
        ∃ other, right.form.catalog.get? name = some other ∧
          presented request other = presented request widget := by
      have there := same name
      rw [found] at there
      exact Option.map_eq_some_iff.mp there.symm
    cases stands with
    | text => exact .text _
    | other other => exact .other other
    | nameless opens wordless => exact .nameless opens wordless
    | unknown opens named word absent =>
      refine .unknown opens named word ?_
      exact Option.map_eq_none_iff.mp ((same _).symm.trans (congrArg _ absent))
    | cell opens named word found input =>
      obtain ⟨other, found, alike⟩ := widget found
      rw [← alike]
      refine .cell opens named word found ?_
      rwa [← show (presented request other).field = other.field from rfl, alike]
    | plain opens named word found plain =>
      obtain ⟨other, found, alike⟩ := widget found
      rw [← alike]
      refine .plain opens named word found ?_
      rwa [← show (presented request other).field = other.field from rfl, alike]
  exact ⟨through presenting.widgets, through fun name => (presenting.widgets name).symm⟩

/-! ## Both rounds -/

/-- A field that the form has is shown by its widget. -/
theorem showField_known {page : Page} {name : String} {widget : Widget}
    (found : page.form.catalog.get? name = some widget) (source : String) (attributes : Attributes) :
    ((showField request source name attributes).run page).1 =
      shownText (presented request widget) source attributes := by
  have there : (page.presenting request name).form.catalog.get? name =
      some (presented request widget) := by
    have looked := page.form.catalog.get?_modify name (presented request) (fun _ => rfl) name
    rw [if_pos rfl, found] at looked
    exact looked
  unfold showField shownText
  rw [run_then, present_run, there]
  dsimp only
  generalize displayOf attributes = display
  -- Both sides match on the display each for itself, so it is told apart by hand.
  by_cases whole : display = "full"
  · subst whole
    rfl
  by_cases input : display = "field"
  · subst input
    rfl
  by_cases label : display = "label"
  · subst label
    rfl
  simp only
  rfl

/-- What the first round makes of a token: its text, or a field that is shown as its text. -/
def Settles (request : Request) (row : Row) (rowId : String) (page : Page) (token : Token) :
    RowPart → Prop
  | .settled text => RowText request page.form.catalog row rowId token text
  | .late source name attributes => ∃ widget, page.form.catalog.get? name = some widget ∧
      RowText request page.form.catalog row rowId token (shownText (presented request widget) source
        (setGiven "value" (request.submission.value? name) attributes))

/-- The first round settles a token or leaves it for later. -/
theorem settlePart_settles (token : Token) (page : Page) :
    Settles request row rowId page token ((settlePart request row rowId token).run page).1 := by
  cases token with
  | text content => exact .text content
  | tag mark =>
    unfold settlePart
    dsimp only
    split
    · rename_i none
      exact .left none _
    · rename_i name named
      obtain ⟨opens, named, word⟩ := rowFieldName?_eq_some_iff.mp named
      rw [run_then, run_get]
      dsimp only
      split
      · rename_i absent
        exact .unknown opens named word absent
      · rename_i widget found
        split
        · rename_i plain
          exact ⟨widget, found, .plain opens named word found plain⟩
        · rename_i input
          rw [run_then, writeField_eq]
          change RowText _ _ _ _ _ ((showField request _ _ _).run page).1
          rw [showField_known found]
          exact .cell opens named word found input

/-- What the first round makes of a token does not depend on the widgets that are told where
they are shown. -/
theorem Settles.presenting {before after : Page} (presenting : Presenting request before after)
    {token : Token} {part : RowPart} :
    Settles request row rowId after token part ↔ Settles request row rowId before token part := by
  cases part with
  | settled text => exact RowText.presenting presenting
  | late source name attributes =>
    have same := presenting.widgets name
    simp only [Settles, RowText.presenting presenting]
    constructor
    · rintro ⟨widget, found, stands⟩
      rw [found] at same
      obtain ⟨other, there, alike⟩ := Option.map_eq_some_iff.mp same.symm
      exact ⟨other, there, alike ▸ stands⟩
    · rintro ⟨widget, found, stands⟩
      rw [found] at same
      obtain ⟨other, there, alike⟩ := Option.map_eq_some_iff.mp same
      exact ⟨other, there, alike ▸ stands⟩

/-- It holds before them as well. -/
theorem settles_before (before after : Page) (token : Token) (part : RowPart)
    (presenting : Presenting request before after)
    (settles : Settles request row rowId after token part) :
    Settles request row rowId before token part :=
  (Settles.presenting presenting).mp settles

/-- The text stands for whatever token the part was made of. -/
def Finishes (request : Request) (row : Row) (rowId : String) (page : Page) (part : RowPart)
    (text : String) : Prop :=
  ∀ token, Settles request row rowId page token part →
    RowText request page.form.catalog row rowId token text

/-- The second round writes the text of every token that was settled or left. -/
theorem finishPart_finishes (part : RowPart) (page : Page) :
    Finishes request row rowId page part ((finishPart request part).run page).1 := by
  intro token settles
  cases part with
  | settled text => exact settles
  | late source name attributes =>
    obtain ⟨widget, found, stands⟩ := settles
    change RowText _ _ _ _ _ ((writeField request source name attributes none).run page).1
    rw [writeField_eq, showField_known found]
    exact stands

/-- Nor does it depend on the widgets that are told where they are shown. -/
theorem finishes_before (before after : Page) (part : RowPart) (text : String)
    (presenting : Presenting request before after)
    (finishes : Finishes request row rowId after part text) :
    Finishes request row rowId before part text := fun token settles =>
  (RowText.presenting presenting).mp (finishes token ((Settles.presenting presenting).mpr settles))

end Rows

/-- A row is written token by token. Once the row's identifier is filled in, there is one text for
each token of the body, in the order of the tokens and however many of them are fields of plain
text, which are written last: text, other tags and field tags whose name is no word stand for
themselves, a field that the form does not have stands for nothing, and every other field is shown
by its widget under the name of the row, with the attributes of its tag and its value in this row.
No field counts as emitted for it.

Proof: both rounds only tell widgets where they are shown, on which no text depends. So each part
of the first round may be judged by the page that the row began with, and so may each text of the
second. -/
theorem rows_written_in_place (request : Request) (body : String) (row : Row) (rowId : String)
    (page : Page) :
    ∃ texts after, (writeRow request body row rowId).run page = (String.join texts, after) ∧
      List.Forall₂ (RowText request page.form.catalog row rowId)
        (Token.tokenize (fillRowId rowId body)) texts ∧
      (∀ others, List.Forall₂ (RowText request page.form.catalog row rowId)
        (Token.tokenize (fillRowId rowId body)) others → others = texts) ∧
      after.emitted = page.emitted := by
  generalize tokens : Token.tokenize (fillRowId rowId body) = items
  have first : List.Forall₂ (Settles request row rowId page) items
      ((items.mapM (settlePart request row rowId)).run page).1 :=
    Within.mapM_values settles_before settlePart_presenting settlePart_settles items page
  have told : Presenting request page ((items.mapM (settlePart request row rowId)).run page).2 :=
    Within.mapM items settlePart_presenting page
  rcases round : (items.mapM (settlePart request row rowId)).run page with ⟨parts, middle⟩
  rw [round] at first told
  dsimp only at first told
  have second : List.Forall₂ (Finishes request row rowId middle) parts
      ((parts.mapM (finishPart request)).run middle).1 :=
    Within.mapM_values finishes_before finishPart_presenting finishPart_finishes parts middle
  have finished : Presenting request middle ((parts.mapM (finishPart request)).run middle).2 :=
    Within.mapM parts finishPart_presenting middle
  rcases round' : (parts.mapM (finishPart request)).run middle with ⟨texts, last⟩
  rw [round'] at second finished
  dsimp only at second finished
  have stand : List.Forall₂ (RowText request page.form.catalog row rowId) items texts :=
    forall₂_through (fun token part text settles finishes =>
      finishes_before page middle part text told finishes token settles) first second
  refine ⟨texts, { last with fieldCount := countFields items }, ?_, stand, ?_, ?_⟩
  · unfold writeRow writeAll
    simp only [tokens, run_then, round, round', run_return, run_modify]
  · intro others stand'
    have unique : Relator.RightUnique (RowText request page.form.catalog row rowId) :=
      fun _ _ _ => RowText.unique
    exact unique.forall₂ stand' stand
  · exact finished.emitted.trans told.emitted

/-- A form of people whose towns are shown as plain text. -/
def peopleForm : Form where
  name := "people"
  catalog := ⟨[{ field := { name := "name" } }, { field := { name := "year" } },
    { field := { name := "town", input := .plaintext } }]⟩
  insertTemplate := ""
  editTemplate := ""
  browserValidation := true

/-- A name is posted for the row 7 alone. -/
def peopleRequest : Request :=
  { noteRequest with submission := .ofPairs [("name[7]", "Eve"), ("name[8]", "Ada")] }

/-- Each field is asked for its input, under the row's identifier. -/
def peopleBody : String :=
  "\x7browLoopID\x7d:\x7bfield name=\"town\" display=\"field\"\x7d,"
    ++ "\x7bfield name=\"name\" display=\"field\" value=\"x\"\x7d,"
    ++ "\x7bfield name=\"year\" display=\"field\"\x7d\x7bfield name=\"none\"\x7d\x7bend\x7d"

-- The posted name stands before the cell's and the tag's, and the first of two years counts.
example :
    ((writeRow peopleRequest peopleBody
        ⟨[("name", .text "Bob"), ("year", .int 1), ("year", .int 2)]⟩ "7").run
          { form := peopleForm }).1 =
      "7:<span id=\"town_7\"></span>,"
        ++ "<input type=\"text\" name=\"name[7]\" id=\"name_7\" value=\"Eve\" />,"
        ++ "<input type=\"text\" name=\"year[7]\" id=\"year_7\" value=\"1\" />\x7bend\x7d" := by
  decide +kernel

end Page

end Formwork
