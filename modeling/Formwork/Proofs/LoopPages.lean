import Formwork.Proofs.LoopFields

/-!
# Pages of one loop over fields

A form section around a loop over fields whose body is plain text around one field tag
is the usual page of a form. It is written in two passes over its text: the loop writes
the hidden fields and repeats its body with one named tag for each other field, and the
last pass writes what these tags name. What the page shows is put together here from
what the passes do to each part of the text.
-/

namespace Formwork.Page

open Text (Plain Tidy isBlank trimLeft trimRight)

/-- The first field tag without a name is given one, whatever is around it. -/
theorem nameFirstTag_around {lead : String} (plain : Plain lead) {spaces : String}
    (blank : ∀ c ∈ spaces.toList, isBlank c = true) (tail name : String) :
    nameFirstTag (lead ++ ((Tag.written "field" spaces).source ++ tail)) name =
      lead ++ ((Tag.naming name).source ++ tail) := by
  have spelled : (Tag.written "field" spaces).Spelled :=
    Tag.written_spelled_of_blank (by decide) blank
  have named : (Tag.written "field" spaces).opens "field" = true := by
    have same : Text.sameName "field" "field" = true := by simp [Text.sameName]
    exact same
  have nameless : ((Tag.written "field" spaces).attributes.get? "name").getD "" = "" := by
    rw [Tag.written_attributes blank]
    rfl
  have texts (tokens rest : List Token)
      (plain : ∀ token ∈ tokens, ∃ content, token = .text content) :
      nameFirst name (tokens ++ rest) = tokens ++ nameFirst name rest := by
    induction tokens with
    | nil => rfl
    | cons token others inductionHypothesis =>
      obtain ⟨⟨content, rfl⟩, behind⟩ := List.forall_mem_cons.mp plain
      rw [List.cons_append, nameFirst, inductionHypothesis behind]
      rfl
  unfold nameFirstTag
  rw [Token.tokenize_tag lead spelled, texts _ _ (Token.tokenize_plain plain), nameFirst,
    named, nameless, Tag.withAttributes_naming blank]
  simp only [decide_true, Bool.and_true, if_true]
  rw [Token.sources_append, Token.sources_cons, Token.sources_tokenize, Token.sources_tokenize]
  rfl

/-- A loop over fields whose body is plain text around one field tag without attributes. -/
structure PlainLoop where
  /-- What stands behind the name of the loop. -/
  given : String
  /-- The text of the body in front of the tag. -/
  before : String
  /-- The blanks behind the name of the tag. -/
  blanks : String
  /-- The text of the body behind the tag. -/
  after : String
  /-- What stands behind a name begins with a blank. -/
  apart : given.toList.head?.all isBlank = true
  /-- The attributes hold no brace. -/
  given_plain : Plain given
  /-- Nor does the text in front of the tag. -/
  before_plain : Plain before
  /-- Nor does the text behind it. -/
  after_plain : Plain after
  /-- The tag has no attributes. -/
  bare : ∀ c ∈ blanks.toList, isBlank c = true

namespace PlainLoop

variable (loop : PlainLoop)

/-- A form section with nothing but the loop. -/
def template : String :=
  "\x7bform\x7d" ++ ("\x7bfieldsLoop" ++ loop.given ++ "\x7d")
    ++ loop.before ++ ("\x7bfield" ++ loop.blanks ++ "\x7d") ++ loop.after
    ++ "\x7b/fieldsLoop\x7d" ++ "\x7b/form\x7d"

/-- The attributes of the loop. -/
def attributes : Attributes := .parse (Text.trim loop.given)

/-- The body for one field, with what is written for the field. -/
def filled (html : String) : String := trimLeft loop.before ++ (html ++ trimRight loop.after)

/-- The body of the loop. -/
def body : String := loop.before ++ ((Tag.written "field" loop.blanks).source ++ loop.after)

/-- The loop with its body. -/
def whole : String :=
  (Tag.written "fieldsLoop" loop.given).source ++ (loop.body ++ (Tag.ended "fieldsLoop").source)

/-- The template is put together from its tags. -/
theorem template_eq : loop.template = formSection loop.whole := by
  have form : (Tag.written "form" "").source = "\x7bform\x7d" := by decide
  have formEnd : (Tag.ended "form").source = "\x7b/form\x7d" := by decide
  have fields : "\x7b" ++ "fieldsLoop" = "\x7bfieldsLoop" := by decide
  have fieldsEnd : (Tag.ended "fieldsLoop").source = "\x7b/fieldsLoop\x7d" := by decide
  have field : "\x7b" ++ "field" = "\x7bfield" := by decide
  rw [template, formSection, whole, body, form, formEnd, fieldsEnd, Tag.written, Tag.written]
  dsimp only
  rw [fields, field]
  simp only [String.append_assoc]

/-- The field tag of the body is spelled. -/
theorem tag_spelled : (Tag.written "field" loop.blanks).Spelled :=
  Tag.written_spelled_of_blank (by decide) loop.bare

/-- So is the opening tag of the loop. -/
theorem opening_spelled : (Tag.written "fieldsLoop" loop.given).Spelled :=
  Tag.written_spelled (by decide) loop.apart loop.given_plain

/-- The braces of the body belong to its tag. -/
theorem body_tidy : Tidy loop.body :=
  loop.before_plain.tidy.append (loop.tag_spelled.tidy.append loop.after_plain.tidy)

/-- The braces of the loop belong to its tags. -/
theorem whole_tidy : Tidy loop.whole :=
  loop.opening_spelled.tidy.append
    (loop.body_tidy.append (Tag.ended_spelled (by decide)).tidy)

/-- The tag of the body has no other name. -/
theorem body_unnamed {names : List String}
    (field : Text.folded "field" ∉ names.map Text.folded) : Node.Unnamed names loop.body :=
  (Node.unnamed_of_plain loop.before_plain names).append loop.before_plain.tidy
    ((Node.unnamed_written loop.tag_spelled field).append loop.tag_spelled.tidy
      (Node.unnamed_of_plain loop.after_plain names))

/-- The tags of the loop have no other names. -/
theorem whole_unnamed {names : List String}
    (field : Text.folded "field" ∉ names.map Text.folded)
    (fields : Text.folded "fieldsLoop" ∉ names.map Text.folded) :
    Node.Unnamed names loop.whole :=
  (Node.unnamed_written loop.opening_spelled fields).append loop.opening_spelled.tidy
    ((loop.body_unnamed field).append loop.body_tidy (Node.unnamed_ended (by decide) fields))

/-- No tag of the template asks for errors or depends on what the form is for. -/
theorem template_unnamed :
    Node.Unnamed ["ifFormErrors", "formErrors", "ifExpandable", "noShowExpandable"]
      loop.template := by
  rw [template_eq]
  exact formSection_unnamed loop.whole_tidy (by decide)
    (loop.whole_unnamed (by decide) (by decide))

/-- For every field the body is repeated with the name of the field. -/
theorem nameFirstTag_body (name : String) :
    nameFirstTag (Text.trim loop.body) name = loop.filled (Tag.naming name).source := by
  have source : (Tag.written "field" loop.blanks).source.toList =
      '\x7b' :: ("field".toList ++ loop.blanks.toList ++ ['\x7d']) := by
    simp [Tag.written]
  rw [body, Text.trim_around loop.before loop.after source]
  exact nameFirstTag_around loop.before_plain.trimLeft loop.bare _ name

/-- The loop as the last pass finds it: the hidden fields, and the body with a named tag for
every other field. -/
def repeated (request : Request) (form : Form) : String :=
  String.join ((hiddenNames request loop.attributes form.catalog).map
      (fieldHtml request form.catalog)) ++
    String.join ((visibleNames request loop.attributes form.catalog).map fun name =>
      loop.filled (Tag.naming name).source)

/-- The body for one field is tidy, and has no other tag than that of the field. -/
theorem filled_naming {name : String} (plain : Plain name) :
    Tidy (loop.filled (Tag.naming name).source) ∧
      Node.Unnamed ["rowLoop"] (loop.filled (Tag.naming name).source) := by
  have before := loop.before_plain.trimLeft
  have after := loop.after_plain.trimRight
  have tag := Tag.naming_spelled plain
  exact ⟨before.tidy.append (tag.tidy.append after.tidy),
    (Node.unnamed_of_plain before _).append before.tidy
      ((Node.unnamed_of_tag tag (by decide : Text.folded "field" ∉ _)).append tag.tidy
        (Node.unnamed_of_plain after _))⟩

section Passes

variable (request : Request) {page : Page} (plain : page.form.NamesPlain)

include plain

/-- The names of the other fields hold no brace. -/
theorem visible_plain {name : String}
    (member : name ∈ visibleNames request loop.attributes page.form.catalog) : Plain name := by
  obtain ⟨field, there, -, rfl⟩ := mem_visibleNames request loop.attributes member
  exact (plain field there).name

/-- The loop is tidy once it is repeated, and has no other tags than those of its fields. -/
theorem repeated_tidy : Tidy (loop.repeated request page.form) ∧
    Node.Unnamed ["rowLoop"] (loop.repeated request page.form) := by
  have hidden := hidden_plain request loop.attributes plain
  have each : ∀ text ∈ (visibleNames request loop.attributes page.form.catalog).map
      (fun name => loop.filled (Tag.naming name).source),
      Tidy text ∧ Node.Unnamed ["rowLoop"] text := by
    intro text member
    obtain ⟨name, there, rfl⟩ := List.mem_map.mp member
    exact loop.filled_naming (loop.visible_plain request plain there)
  exact ⟨hidden.tidy.append (.join fun text member => (each text member).1),
    (Node.unnamed_of_plain hidden _).append hidden.tidy
      (.join (fun text member => (each text member).1) fun text member => (each text member).2)⟩

/-- A section with nothing but the loop is repeated where it stands. -/
theorem writeSection_run (fresh : page.emitted = []) (distinct : page.form.catalog.names.Nodup) :
    ((writeSection request loop.template).run page).1 =
        formSection (loop.repeated request page.form) ∧
      Standing request page page.issued
        (hiddenNames request loop.attributes page.form.catalog)
        ((writeSection request loop.template).run page).2 := by
  have attributes : (Tag.written "fieldsLoop" loop.given).attributes = loop.attributes := rfl
  have parts : loop.template = (Tag.written "form" "").source ++
      ((Tag.written "fieldsLoop" loop.given).source ++
        (loop.body ++ ((Tag.ended "fieldsLoop").source ++ (Tag.ended "form").source))) := by
    rw [template_eq, formSection, whole, String.append_assoc, String.append_assoc]
  obtain ⟨written, shown⟩ :=
    writeFieldsLoop_run request loop.attributes (Text.trim loop.body) fresh distinct
  rw [show nameFirstTag (Text.trim loop.body) = fun name =>
    loop.filled (Tag.naming name).source from funext loop.nameFirstTag_body] at written
  have looped : ((writeFieldsLoops request loop.template).run page).1 =
      formSection (loop.repeated request page.form) ∧
      ((writeFieldsLoops request loop.template).run page).2 =
        ((writeFieldsLoop request loop.attributes (Text.trim loop.body)).run page).2 := by
    rw [parts, writeFieldsLoops_section request
      (.of_name (by decide) loop.opening_spelled) (Node.unnamed_written form_spelled (by decide))
      (loop.body_unnamed (by decide)) (Node.unnamed_ended (by decide) (by decide)), attributes,
      run_then, run_return, written, formSection, repeated]
    simp only [and_self]
  obtain ⟨tidy, unnamed⟩ := loop.repeated_tidy request plain
  have rows : Node.Unnamed ["rowLoop"] ((writeFieldsLoops request loop.template).run page).1 := by
    rw [looped.1]
    exact formSection_unnamed tidy (by decide) unnamed
  rw [writeSection_fieldsLoops request (loop.template_unnamed.mono (by simp)) rows, looped.1,
    looped.2]
  exact ⟨rfl, shown⟩

end Passes

end PlainLoop

/-! ## Tags that the last pass finds -/

section Tags

variable (request : Request)

/-- A tag that names a field is written as this field. -/
theorem writeTag_naming (name : String) :
    writeTag request (Tag.naming name) = writeNamed request (Tag.naming name) := by
  have key : (Tag.naming name).key = "field" := Tag.written_key (by decide) _
  unfold writeTag
  simp only [key]

end Tags

/-- One more form is opened. -/
theorem Standing.opens {request : Request} {started page : Page} {issued : Nat}
    {emitted : List String} (standing : Standing request started issued emitted page) :
    Standing request started (issued + 1) emitted { page with issued := page.issued + 1 } :=
  ⟨standing.form, standing.widgets, congrArg (· + 1) standing.issued, standing.emitted⟩

/-- What a form starts with does not depend on its fields. -/
theorem Standing.formStart_eq {request : Request} {started page : Page} {issued : Nat}
    {emitted : List String} (standing : Standing request started issued emitted page)
    (number : Nat) :
    formStart request page.form number = formStart request started.form number := by
  rw [standing.form]
  rfl

namespace PlainLoop

variable (loop : PlainLoop) (request : Request)

/-- The last pass writes what the tag of a body names in its place. -/
theorem writeTags_filled {name : String} (plain : Plain name) :
    writeTags request (loop.filled (Tag.naming name).source) = do
      let html ← writeNamed request (Tag.naming name)
      return loop.filled html := by
  have tag := Tag.naming_spelled plain
  rw [filled, writeTags_append request loop.before_plain.trimLeft.tidy,
    writeTags_append request tag.tidy, writeTags_plain request loop.before_plain.trimLeft,
    writeTags_plain request loop.after_plain.trimRight, writeTags_tag request tag, writeTag_naming]
  simp [filled]

/-- So a field that was not shown is shown in the text of the body. -/
theorem filled_shows {started page : Page} {issued : Nat} {emitted : List String}
    (standing : Standing request started issued emitted page) {name : String}
    (known : name ∈ started.form.catalog.names) (fresh : name ∉ emitted) (given : name ≠ "")
    (unquoted : '"' ∉ name.toList) (plain : Plain name) :
    ((writeTags request (loop.filled (Tag.naming name).source)).run page).1 =
        loop.filled (fieldHtml request started.form.catalog name) ∧
      Standing request started issued (emitted ++ [name])
        ((writeTags request (loop.filled (Tag.naming name).source)).run page).2 := by
  obtain ⟨html, shown⟩ := standing.named known fresh given (Tag.naming_attributes unquoted)
  rw [loop.writeTags_filled request plain, run_then, run_return, html]
  dsimp only
  exact ⟨rfl, shown⟩

/-- The last pass writes the section in order. -/
theorem writeTags_repeated {page : Page} (plain : page.form.NamesPlain) :
    writeTags request (formSection (loop.repeated request page.form)) = do
      let start ← writeTag request (Tag.written "form" "")
      let fields ← writeAll (visibleNames request loop.attributes page.form.catalog) fun name =>
        writeTags request (loop.filled (Tag.naming name).source)
      return start
        ++ String.join ((hiddenNames request loop.attributes page.form.catalog).map
          (fieldHtml request page.form.catalog))
        ++ fields ++ formEnd request := by
  have hidden := hidden_plain request loop.attributes plain
  rw [writeTags_formSection request (loop.repeated_tidy request plain).1, repeated,
    writeTags_append request hidden.tidy, writeTags_plain request hidden, writeTags_join]
  · simp [String.append_assoc]
  · intro name member
    exact (loop.filled_naming (loop.visible_plain request plain member)).1

/-- The last pass shows the fields that are not hidden, each in the text of the body. -/
theorem writeTags_run {started page : Page} {issued : Nat}
    (standing : Standing request started issued
      (hiddenNames request loop.attributes started.form.catalog) page)
    (distinct : started.form.catalog.names.Nodup) (given : "" ∉ started.form.catalog.names)
    (unquoted : ∀ name ∈ started.form.catalog.names, '"' ∉ name.toList)
    (plain : started.form.NamesPlain) :
    let fields := started.form.catalog
    let hidden := hiddenNames request loop.attributes fields
    let visible := visibleNames request loop.attributes fields
    let written := (writeTags request (formSection (loop.repeated request started.form))).run page
    written.1 = formStart request started.form (issued + 1)
        ++ String.join (hidden.map (fieldHtml request fields))
        ++ String.join (visible.map fun name => loop.filled (fieldHtml request fields name))
        ++ formEnd request ∧
      Standing request started (issued + 1) (hidden ++ visible) written.2 := by
  intro fields hidden visible written
  obtain rfl := standing.issued
  have known : ∀ name ∈ visible, name ∈ fields.names := by
    intro name member
    obtain ⟨field, there, -, rfl⟩ := mem_visibleNames request loop.attributes member
    exact List.mem_map_of_mem there
  have fresh : ∀ name ∈ visible, name ∉ hidden := by
    intro name member
    obtain ⟨field, there, seen, rfl⟩ := mem_visibleNames request loop.attributes member
    exact not_mem_hiddenNames request loop.attributes distinct there seen
  have opened := standing.opens
  have start := standing.formStart_eq (page.issued + 1)
  obtain ⟨texts, shown⟩ := opened.shows_all
    (visibleNames_nodup request loop.attributes distinct) fresh
    fun name member later emitted standing unshown =>
      loop.filled_shows request standing (known name member) unshown
        (fun none => given (none ▸ known name member)) (unquoted name (known name member))
        (loop.visible_plain request plain member)
  change ((writeTags request _).run page).1 = _ ∧
    Standing request started _ _ ((writeTags request _).run page).2
  rw [loop.writeTags_repeated request plain, run_then, writeTag_form]
  dsimp only
  rw [run_then, run_return, texts, start]
  dsimp only
  exact ⟨rfl, shown⟩

end PlainLoop

/-- A form section with nothing but a loop over fields, whose body is plain text around one field
tag, shows the fields that the loop is for and no others, each of them once: first the hidden
ones, if they are to be shown, in the order of the catalog, and then the others, each in the text
of the body without blanks at its ends, in the order of the catalog or with the fields first that
can be changed. The fields count as emitted in this order.

No catalog takes a field without a name, so the only condition on names besides being distinct
is that they can stand in a tag: a quotation mark or a brace in a name would end the tag in
which the loop writes it. -/
theorem loop_page_written (request : Request) (loop : PlainLoop) (page : Page)
    (distinct : page.form.catalog.names.Nodup) (filled : "" ∉ page.form.catalog.names)
    (unquoted : ∀ name ∈ page.form.catalog.names, '"' ∉ name.toList)
    (plain : page.form.NamesPlain) :
    let form := page.start.form
    let hidden := hiddenNames request loop.attributes form.catalog
    let visible := visibleNames request loop.attributes form.catalog
    let written := (render request loop.template).run page
    written.1 = formStart request form (page.issued + 1)
        ++ String.join (hidden.map (fieldHtml request form.catalog))
        ++ String.join (visible.map fun name => loop.filled (fieldHtml request form.catalog name))
        ++ formEnd request ∧
      written.2.emitted = hidden ++ visible ∧ (hidden ++ visible).Nodup := by
  intro form hidden visible written
  have kept : page.start.form.catalog.names = page.form.catalog.names :=
    (start_calm page).form.names
  rw [← kept] at distinct filled unquoted
  have plain := plain.kept (start_calm page).form
  have once : (hidden ++ visible).Nodup := by
    refine List.nodup_append.mpr ⟨hiddenNames_nodup request loop.attributes distinct,
      visibleNames_nodup request loop.attributes distinct, fun name first other second same => ?_⟩
    obtain ⟨field, there, seen, rfl⟩ := mem_visibleNames request loop.attributes second
    exact not_mem_hiddenNames request loop.attributes distinct there seen (same ▸ first)
  -- The section shows the hidden fields, and the last pass starts from the page that it leaves.
  obtain ⟨looped, standing⟩ := loop.writeSection_run request plain rfl distinct
  obtain ⟨texts, shown⟩ := loop.writeTags_run request standing distinct filled unquoted plain
  have passes : written =
      (writeTags request (formSection (loop.repeated request page.start.form))).run
        ((writeSection request loop.template).run page.start).2 := by
    have errors : Node.Unnamed ["ifFormErrors", "formErrors"] loop.template :=
      loop.template_unnamed.mono (by simp)
    have section_ := render_formSection request
      (loop.whole_unnamed (by decide) (by decide)) (loop.template_eq ▸ errors) page
    rw [← loop.template_eq, looped] at section_
    exact section_
  rw [passes]
  exact ⟨texts, shown.emitted, once⟩

/-- A form of a person: a key, two hidden fields, two that every form shows and one
that only new persons are asked for. -/
def personForm : Form where
  name := "person"
  catalog := ⟨[{ field := { name := "id", primary := true } },
    { field := { name := "mark", input := .hidden, value := "m" } },
    { field := { name := "seal", input := .hidden, value := "s" } },
    { field := { name := "born", showIn := [.insert] } },
    { field := { name := "note" } }, { field := { name := "town" } }]⟩
  insertTemplate := ""
  editTemplate := ""
  browserValidation := true

/-- A loop over listed fields, those first that can be changed. -/
def personLoop : PlainLoop where
  given := " list=\"note, born, mark, id\" editStrip=\"1\" showHidden=\"yes\""
  before := " <p>"
  blanks := ""
  after := "</p> "
  apart := by decide
  given_plain := by decide
  before_plain := by decide
  after_plain := by decide
  bare := List.all_eq_true.mp (by decide)

/-- A loop over all fields that are not hidden. -/
def seenLoop : PlainLoop :=
  { personLoop with
    given := " showHidden=\"no\""
    apart := by decide
    given_plain := by decide }

/-- Of the listed fields the hidden mark comes first and the disabled key last, and
the one that is not for updates is left out. Without a list the fields that are not
hidden come in the order of the catalog. -/
theorem person_page_written :
    personForm.catalog.names.Nodup ∧ "" ∉ personForm.catalog.names ∧
      (∀ name ∈ personForm.catalog.names, '"' ∉ name.toList) ∧ personForm.NamesPlain ∧
      ((render noteRequest personLoop.template).run { form := personForm }).1 =
        "<form method=\"post\">" ++ ownInput "__formID" "form1" ++ ownInput "__csrfID" "c1"
          ++ ownInput "__csrfToken" "t"
          ++ "<input type=\"hidden\" name=\"mark\" id=\"mark\" value=\"m\" />"
          ++ "<p><div class=\"formField textField\"><label for=\"note\">note</label>"
          ++ "<input type=\"text\" name=\"note\" id=\"note\" value=\"\" /></div></p>"
          ++ "<p><div class=\"formField textField\"><label for=\"id\">id</label>"
          ++ "<input type=\"text\" name=\"id\" id=\"id\" value=\"\" disabled=\"disabled\" /></div></p>"
          ++ "</form>" ∧
      ((render noteRequest personLoop.template).run { form := personForm }).2.emitted =
        ["mark", "note", "id"] ∧
      ((render noteRequest seenLoop.template).run { form := personForm }).2.emitted =
        ["id", "note", "town"] := by
  have distinct : personForm.catalog.names.Nodup := by decide
  have filled : "" ∉ personForm.catalog.names := by decide
  have unquoted : ∀ name ∈ personForm.catalog.names, '"' ∉ name.toList := by decide
  have plain : personForm.NamesPlain := by
    have names : ∀ field ∈ personForm.catalog.fields, Plain field.name ∧
        ∀ entry ∈ field.attributes.entries, Plain entry.1 := by decide
    exact fun field member => ⟨(names field member).1, (names field member).2⟩
  obtain ⟨html, emitted, -⟩ :=
    loop_page_written noteRequest personLoop { form := personForm } distinct filled unquoted plain
  obtain ⟨-, seen, -⟩ :=
    loop_page_written noteRequest seenLoop { form := personForm } distinct filled unquoted plain
  refine ⟨distinct, filled, unquoted, plain, ?_, ?_, ?_⟩
  · rw [html]
    decide +kernel
  · rw [emitted]
    decide +kernel
  · rw [seen]
    decide +kernel

end Formwork.Page
