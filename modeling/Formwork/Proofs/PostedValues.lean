import Formwork.Proofs.Lockstep
import Formwork.Proofs.NothingLost
import Formwork.Proofs.PageFrame
import Formwork.Proofs.PlainMarkup
import Formwork.Proofs.SectionsInStep

/-!
# Pages do what they do whatever was posted

Posted values are shown in inputs, and a later pass reads again the text that an
earlier one wrote. No value becomes a tag on the way: a page for one submission
and a page for another are written in lockstep, from texts with the same tags to
texts with the same tags, and their states are equal after every step. This needs
of the form that the names written as they stand hold no brace, which no step of
a page changes, and of the template that its braces belong to tags.
-/

namespace Formwork

open Text (Plain Tidy Alike)

/-- The request with something else posted. -/
def Request.posting (request : Request) (submission : Submission) : Request :=
  { request with submission }

/-- The connections are the same, whatever was posted. -/
theorem Request.posting_connections (request : Request) (submission : Submission) :
    (request.posting submission).connections = request.connections := rfl

/-- So is the kind of form. -/
theorem Request.posting_kind (request : Request) (submission : Submission) :
    (request.posting submission).kind = request.kind := rfl

/-- So are the options. -/
theorem Request.posting_options (request : Request) (submission : Submission) :
    (request.posting submission).options = request.options := rfl

/-! ## Names of a form -/

/-- Names are part of the settled description. -/
theorem Field.namesPlain_settled {field : Field} : field.settled.NamesPlain ↔ field.NamesPlain :=
  ⟨fun plain => ⟨plain.name, plain.attributes⟩, fun plain => ⟨plain.name, plain.attributes⟩⟩

/-- The names that the widgets of a form write as they stand hold no brace. -/
def Form.NamesPlain (form : Form) : Prop := ∀ field ∈ form.catalog.fields, field.NamesPlain

/-- A form that is kept keeps such names. -/
theorem Form.NamesPlain.kept {before after : Form} (plain : before.NamesPlain)
    (kept : before.Kept after) : after.NamesPlain := by
  intro field member
  have settled : field.settled ∈ before.catalog.settled := by
    rw [← kept.fields]
    exact List.mem_map_of_mem member
  obtain ⟨other, there, same⟩ := List.mem_map.mp settled
  rw [← Field.namesPlain_settled, ← same, Field.namesPlain_settled]
  exact plain other there

/-- The widget that is found by a name is of such a form. -/
theorem Form.NamesPlain.get? {form : Form} (plain : form.NamesPlain) {name : String}
    {widget : Widget} (found : form.catalog.get? name = some widget) : widget.field.NamesPlain :=
  plain _ (List.mem_map_of_mem (List.mem_of_find?_eq_some found))

/-! ## Tokens that are changed one by one -/

/-- Tokens in step are changed to texts that are alike if texts are left and proper
tags become tidy. -/
theorem Text.Alike.change {left right : String} (alike : Alike left right) {change : Token → String}
    (texts : ∀ content, change (.text content) = content)
    (tags : ∀ mark : Tag, mark.Proper → Tidy (change (.tag mark))) :
    Alike (String.join ((Token.tokenize left).map change))
      (String.join ((Token.tokenize right).map change)) := by
  have gaps (token : Token) (fills : token.Gap) : Plain (change token) := by
    obtain ⟨content, rfl, plain⟩ := fills
    rw [texts]
    exact plain
  apply Aligned.join
  refine alike.tokens.map gaps gaps ?_
  rintro _ _ ⟨mark, proper, rfl, rfl⟩
  exact (tags mark proper).alike

/-- Tokens in step stand for texts that are alike. -/
theorem Token.alike_sources {left right : List Token} (aligned : Aligned Gap Same left right) :
    Alike (sources left) (sources right) := by
  have gaps (token : Token) (fills : token.Gap) : Plain token.source := by
    obtain ⟨content, rfl, plain⟩ := fills
    exact plain
  apply Aligned.join
  refine aligned.map gaps gaps ?_
  rintro _ _ ⟨mark, proper, rfl, rfl⟩
  exact proper.tidy.alike

/-- The attributes of a proper tag hold no brace. -/
theorem Tag.Proper.attributes {mark : Tag} (proper : mark.Proper) : mark.attributes.AllPlain :=
  Attributes.parse_allPlain proper.plain

/-- A proper tag may be given a plain name. -/
theorem Tag.Proper.renamed {mark : Tag} (proper : mark.Proper) {name : String} (plain : Plain name) :
    Tidy (mark.withAttributes (mark.attributes.set "name" name)).source :=
  proper.withAttributes_tidy (proper.attributes.set (by decide) plain).toSource

namespace Page

/-- Naming the first field tag leads from tokens in step to texts that are alike. -/
theorem nameFirst_alike {name : String} (plain : Plain name) {left right : List Token}
    (aligned : Aligned Token.Gap Token.Same left right) :
    Alike (Token.sources (nameFirst name left)) (Token.sources (nameFirst name right)) := by
  induction aligned with
  | nil => exact Node.alike_empty
  | first fills rest inductionHypothesis =>
    obtain ⟨content, rfl, plain⟩ := fills
    rw [nameFirst, Token.sources_cons]
    exact Node.alike_first plain inductionHypothesis
  | second fills rest inductionHypothesis =>
    obtain ⟨content, rfl, plain⟩ := fills
    rw [nameFirst, Token.sources_cons]
    exact Node.alike_second plain inductionHypothesis
  | both agree rest inductionHypothesis =>
    obtain ⟨mark, proper, rfl, rfl⟩ := agree
    unfold nameFirst
    split
    · rw [Token.sources_cons, Token.sources_cons]
      exact (proper.renamed plain).alike.append (Token.alike_sources rest)
    · rw [Token.sources_cons, Token.sources_cons]
      exact proper.tidy.alike.append inductionHypothesis

/-- The bodies of a loop for one field are alike. -/
theorem nameFirstTag_alike {name : String} (plain : Plain name) {left right : String}
    (alike : Alike left right) : Alike (nameFirstTag left name) (nameFirstTag right name) :=
  nameFirst_alike plain alike.tokens

/-- The identifier of a row is filled in alike. -/
theorem fillRowId_alike {rowId : String} (plain : Plain rowId) {left right : String}
    (alike : Alike left right) : Alike (fillRowId rowId left) (fillRowId rowId right) := by
  refine alike.change (fun _ => rfl) fun mark proper => ?_
  dsimp only
  split
  · exact plain.tidy
  · exact proper.tidy

/-- Counters are filled in alike. -/
theorem fillCounters_alike (rowCount fieldCount : Nat) {left right : String}
    (alike : Alike left right) :
    Alike (fillCounters rowCount fieldCount left) (fillCounters rowCount fieldCount right) := by
  refine alike.change (fun _ => rfl) fun mark proper => ?_
  dsimp only
  split
  · exact (Decimal.natText_plain rowCount).tidy
  · split
    · exact (Decimal.natText_plain fieldCount).tidy
    · exact proper.tidy

/-- Tokens in step hold the same number of field tags. -/
theorem countFields_eq {left right : List Token}
    (aligned : Aligned Token.Gap Token.Same left right) : countFields left = countFields right := by
  unfold countFields
  induction aligned with
  | nil => rfl
  | first fills rest inductionHypothesis =>
    obtain ⟨content, rfl, -⟩ := fills
    exact inductionHypothesis
  | second fills rest inductionHypothesis =>
    obtain ⟨content, rfl, -⟩ := fills
    exact inductionHypothesis
  | both agree rest inductionHypothesis =>
    obtain ⟨mark, -, rfl, rfl⟩ := agree
    rw [List.filter_cons, List.filter_cons]
    by_cases field : (rowFieldName? mark).isSome = true
    · rw [if_pos field, if_pos field, List.length_cons, List.length_cons, inductionHypothesis]
    · rw [if_neg field, if_neg field]
      exact inductionHypothesis

/-! ## Fields -/

/-- Two writers that give related values and lead to the same page, whatever the
page, as long as the names of its form are plain. -/
def InStep {α β : Type} (related : α → β → Prop) (left : StateM Page α) (right : StateM Page β) :
    Prop :=
  Lockstep (fun page => page.form.NamesPlain) related left right

/-- A writer that keeps the form is in step with itself. -/
theorem InStep.keeping {α : Type} {writer : StateM Page α} (keeping : Within Keeping writer) :
    InStep Eq writer writer :=
  .same fun page plain => plain.kept (keeping page)

/-- So is a calm one. -/
theorem InStep.calm {α : Type} {writer : StateM Page α} (calm : Within Calm writer) :
    InStep Eq writer writer :=
  .keeping (.mono (fun _ _ => Calm.keeping) calm)

/-- Reporting the same and giving related values. -/
theorem InStep.reported {α β : Type} {related : α → β → Prop} (level : Level) (message : String)
    {value : α} {other : β} (values : related value other) :
    InStep related (do report level message; return value) (do report level message; return other) :=
  (InStep.calm (report_calm level message)).bind fun _ _ _ => .pure values

/-- The texts for two lists in step are alike if those for the same items are. -/
theorem InStep.writeAll {α : Type} {gap : α → Prop} {agree : α → α → Prop}
    {write write' : α → StateM Page String} {items others : List α}
    (aligned : Aligned gap agree items others)
    (first : ∀ item, gap item → ∃ text, write item = Pure.pure text ∧ Plain text)
    (second : ∀ item, gap item → ∃ text, write' item = Pure.pure text ∧ Plain text)
    (both : ∀ item other, agree item other → InStep Alike (write item) (write' other)) :
    InStep Alike (writeAll items write) (writeAll others write') :=
  (Lockstep.mapM aligned first second both).bind fun _ _ texts => .pure texts.join

variable (request : Request) (submission : Submission)

/-- A field is presented alike, and its names are plain. -/
theorem present_inStep (name : String) :
    InStep (fun shown other => shown = other ∧ ∀ widget ∈ shown, widget.field.NamesPlain)
      (present request name) (present (request.posting submission) name) := by
  intro page plain
  have kept := plain.kept (present_calm request name page).form
  exact ⟨⟨rfl, fun widget found => kept.get? found⟩, rfl, kept⟩

/-- Writes what a tag asks for of a field whose value is settled. -/
def showField (source name : String) (attributes : Attributes) : StateM Page String := do
  match ← present request name with
  | none =>
    report .debug (Failure.unknownField name).message
    return ""
  | some widget =>
    match displayOf attributes with
    | "full" => return widget.html (layoutOf attributes) attributes
    | "field" => return widget.inputHtml attributes
    | "label" => return widget.labelHtml attributes
    | other =>
      report .debug s!"Invalid 'display' for field '{name}': '{other}' (only full|field|label are valid)"
      return source

/-- A field is written by settling its value and showing it. -/
theorem writeField_eq (source name : String) (attributes : Attributes) (value : Option String) :
    writeField request source name attributes value =
      showField request source name
        (setGiven "value" (value.or (request.submission.value? name)) attributes) := rfl

/-- Whatever its value, a field is shown in texts that are alike. -/
theorem showField_inStep {source : String} (tidy : Tidy source) (name : String)
    {left right : Attributes} (named : left.NamesPlain) (named' : right.NamesPlain)
    (display : displayOf left = displayOf right) (layout : layoutOf left = layoutOf right) :
    InStep Alike (showField request source name left)
      (showField (request.posting submission) source name right) := by
  refine (present_inStep request submission name).bind fun shown other same => ?_
  obtain ⟨rfl, plain⟩ := same
  cases shown with
  | none => exact InStep.reported _ _ Node.alike_empty
  | some widget =>
    have names := plain widget rfl
    dsimp only
    rw [display, layout]
    split
    · exact .pure ((widget.html_plain names _ named).alike (widget.html_plain names _ named'))
    · exact .pure ((widget.inputHtml_plain names named).alike (widget.inputHtml_plain names named'))
    · exact .pure ((widget.labelHtml_plain left).alike (widget.labelHtml_plain right))
    · exact InStep.reported _ _ tidy.alike

/-- Setting a value keeps plain names. -/
theorem namesPlain_setGiven (given : Option String) {attributes : Attributes}
    (named : attributes.NamesPlain) : (setGiven "value" given attributes).NamesPlain := by
  cases given with
  | none => exact named
  | some value => exact named.set (by decide) value

/-- It does not change what is asked to be shown. -/
theorem displayOf_setGiven (given : Option String) (attributes : Attributes) :
    displayOf (setGiven "value" given attributes) = displayOf attributes := by
  cases given with
  | none => rfl
  | some value =>
    unfold displayOf setGiven
    rw [Attributes.get?_set_of_ne (by decide)]

/-- Nor does it change the layout. -/
theorem layoutOf_setGiven (given : Option String) (attributes : Attributes) :
    layoutOf (setGiven "value" given attributes) = layoutOf attributes := by
  cases given with
  | none => rfl
  | some value =>
    unfold layoutOf setGiven
    rw [Attributes.get?_set_of_ne (by decide)]

/-- A field is written alike, whatever was posted for it and whatever value is
given. -/
theorem writeField_inStep {source : String} (tidy : Tidy source) (name : String)
    {attributes : Attributes} (named : attributes.NamesPlain) (value value' : Option String) :
    InStep Alike (writeField request source name attributes value)
      (writeField (request.posting submission) source name attributes value') := by
  rw [writeField_eq, writeField_eq]
  refine showField_inStep request submission tidy name (namesPlain_setGiven _ named)
    (namesPlain_setGiven _ named) ?_ ?_
  · rw [displayOf_setGiven, displayOf_setGiven]
  · rw [layoutOf_setGiven, layoutOf_setGiven]

/-- A whole field is written alike. -/
theorem writeWhole_inStep (name : String) :
    InStep Alike (writeWhole request name) (writeWhole (request.posting submission) name) := by
  have none : Attributes.empty.NamesPlain := fun _ member => by cases member
  refine (writeField_inStep request submission Node.alike_empty.first name none _ _).bind
    fun _ _ html => ?_
  exact (InStep.calm (markEmitted_calm name)).bind fun _ _ _ => .pure html

/-- Whole fields are written alike, one after another. -/
theorem writeWholes_inStep (names : List String) :
    InStep Alike (writeAll names (writeWhole request))
      (writeAll names (writeWhole (request.posting submission))) := by
  have aligned : Aligned (fun _ => False) Eq names names := .refl fun _ _ => rfl
  refine .writeAll aligned (fun _ fills => fills.elim) (fun _ fills => fills.elim) ?_
  rintro name _ rfl
  exact writeWhole_inStep request submission name

/-! ## Loops over fields -/

/-- The fields that a loop repeats its body for have plain names. -/
theorem plain_of_mem_loopVisible {attributes : Attributes} {page : Page}
    (plain : page.form.NamesPlain) {name : String}
    (member : name ∈ loopVisible request attributes page) : Plain name := by
  obtain ⟨-, accepted⟩ := List.mem_filter.mp member
  simp only [Bool.and_eq_true] at accepted
  obtain ⟨⟨shown, -⟩, -⟩ := accepted
  obtain ⟨widget, found, -⟩ := (Option.any_eq_true _ _).mp shown
  have named : widget.field.name = name := by
    simpa using List.find?_some found
  rw [← named]
  exact (plain.get? found).name

/-- A loop over fields writes alike. -/
theorem writeFieldsLoop_inStep (attributes : Attributes) {body body' : String}
    (alike : Alike body body') :
    InStep Alike (writeFieldsLoop request attributes body)
      (writeFieldsLoop (request.posting submission) attributes body') := by
  have repeated {hidden hidden' : String} (written : Alike hidden hidden') :
      InStep Alike
        (do
          let visible := loopVisible request attributes (← MonadState.get)
          return hidden ++ String.join (visible.map (nameFirstTag body)))
        (do
          let visible := loopVisible (request.posting submission) attributes (← MonadState.get)
          return hidden' ++ String.join (visible.map (nameFirstTag body'))) := by
    refine Lockstep.get.bind fun page other same => ?_
    obtain ⟨rfl, plain⟩ := same
    have visible : Aligned (fun _ => False) (fun name other => name = other ∧ Plain name)
        (loopVisible request attributes page) (loopVisible request attributes page) :=
      .refl fun name member => ⟨rfl, plain_of_mem_loopVisible request plain member⟩
    refine .pure (written.append (Aligned.join (visible.map ?_ ?_ ?_)))
    · exact fun _ fills => fills.elim
    · exact fun _ fills => fills.elim
    · rintro name _ ⟨rfl, plain⟩
      exact nameFirstTag_alike plain alike
  unfold writeFieldsLoop
  dsimp only
  split
  · refine Lockstep.get.bind fun page other same => ?_
    obtain ⟨rfl, -⟩ := same
    exact (writeWholes_inStep request submission _).bind fun _ _ => repeated
  · exact (Lockstep.pure Node.alike_empty).bind fun _ _ => repeated

/-- Loops over fields write alike. -/
theorem writeFieldsLoops_inStep {source source' : String} (alike : Alike source source') :
    InStep Alike (writeFieldsLoops request source)
      (writeFieldsLoops (request.posting submission) source') := by
  refine .writeAll (Node.parse_inStep alike ["fieldsLoop"]).aligned ?_ ?_ ?_
  · rintro _ ⟨content, rfl, plain⟩
    exact ⟨content, rfl, plain⟩
  · rintro _ ⟨content, rfl, plain⟩
    exact ⟨content, rfl, plain⟩
  · rintro _ _ (proper | ⟨opens, closes, children⟩)
    · exact .pure proper.tidy.alike
    · exact writeFieldsLoop_inStep request submission _ children.sources.trim

/-! ## Rows -/

/-- Parts of a row are in step if their texts are alike, or if the same field of
plain text is left for later. -/
inductive RowPart.InStep : RowPart → RowPart → Prop where
  /-- Texts that are alike. -/
  | settled {left right : String} (alike : Alike left right) : InStep (.settled left) (.settled right)
  /-- The same field. -/
  | late {source name : String} {attributes : Attributes} (tidy : Tidy source)
      (named : attributes.NamesPlain) : InStep (.late source name attributes) (.late source name attributes)

/-- A part of a row that is a plain text. -/
def RowPart.Gap (part : RowPart) : Prop := ∃ text, part = .settled text ∧ Plain text

/-- The same tag is settled in step. -/
theorem settlePart_inStep (row : Row) {rowId : String} (plain : Plain rowId) {mark : Tag}
    (proper : mark.Proper) :
    InStep RowPart.InStep (settlePart request row rowId (.tag mark))
      (settlePart (request.posting submission) row rowId (.tag mark)) := by
  unfold settlePart
  dsimp only
  split
  · exact .pure (.settled proper.tidy.alike)
  · rename_i name found
    have named : Plain name := by
      unfold rowFieldName? at found
      split at found
      · exact proper.attributes.get? (Option.eq_some_of_filter_eq_some found)
      · cases found
    have renamed : Plain (name ++ "[" ++ rowId ++ "]") := by
      simp only [Text.plain_append, named, plain, true_and, and_true]
      decide
    refine Lockstep.get.bind fun page other same => ?_
    obtain ⟨rfl, -⟩ := same
    have source := proper.renamed renamed
    have attributes := (proper.attributes.set (by decide : Plain "name") renamed).names
    split
    · exact InStep.reported _ _ (.settled Node.alike_empty)
    · split
      · exact .pure (.late source attributes)
      · exact (writeField_inStep request submission source name attributes _ _).bind
          fun _ _ written => .pure (.settled written)

/-- Tokens in step are settled in step. -/
theorem settleParts_inStep (row : Row) {rowId : String} (plain : Plain rowId)
    {tokens others : List Token} (aligned : Aligned Token.Gap Token.Same tokens others) :
    InStep (Aligned RowPart.Gap RowPart.InStep) (tokens.mapM (settlePart request row rowId))
      (others.mapM (settlePart (request.posting submission) row rowId)) := by
  refine Lockstep.mapM aligned ?_ ?_ ?_
  · rintro _ ⟨content, rfl, plain⟩
    exact ⟨.settled content, rfl, content, rfl, plain⟩
  · rintro _ ⟨content, rfl, plain⟩
    exact ⟨.settled content, rfl, content, rfl, plain⟩
  · rintro _ _ ⟨mark, proper, rfl, rfl⟩
    exact settlePart_inStep request submission row plain proper

/-- Parts of a row in step are written alike. -/
theorem finishParts_inStep {parts others : List RowPart}
    (aligned : Aligned RowPart.Gap RowPart.InStep parts others) :
    InStep Alike (writeAll parts (finishPart request))
      (writeAll others (finishPart (request.posting submission))) := by
  refine .writeAll aligned ?_ ?_ ?_
  · rintro _ ⟨text, rfl, plain⟩
    exact ⟨text, rfl, plain⟩
  · rintro _ ⟨text, rfl, plain⟩
    exact ⟨text, rfl, plain⟩
  · rintro _ _ (alike | ⟨tidy, named⟩)
    · exact .pure alike
    · exact writeField_inStep request submission tidy _ named none none

/-- A row is written alike. -/
theorem writeRow_inStep {body body' : String} (alike : Alike body body') (row : Row)
    {rowId : String} (plain : Plain rowId) :
    InStep Alike (writeRow request body row rowId)
      (writeRow (request.posting submission) body' row rowId) := by
  have tokens := (fillRowId_alike plain alike).tokens
  have counted (number : Nat) :
      Within Calm (modify fun page : Page => { page with fieldCount := number }) :=
    .step fun _ => .beside rfl rfl
  unfold writeRow
  dsimp only
  rw [countFields_eq tokens]
  refine (settleParts_inStep request submission row plain tokens).bind fun _ _ parts => ?_
  refine (finishParts_inStep request submission parts).bind fun _ _ texts => ?_
  exact (InStep.calm (counted _)).bind fun _ _ _ => .pure texts

/-- Rows are written alike, one after another. -/
theorem writeRows_inStep {body body' : String} (alike : Alike body body') (table : String)
    (keyed : Bool) (position : Nat) (seen : List String) (rows : List Row) :
    InStep Alike (writeRows request body table keyed position seen rows)
      (writeRows (request.posting submission) body' table keyed position seen rows) := by
  induction rows generalizing position seen with
  | nil => exact .pure Node.alike_empty
  | cons row rest inductionHypothesis =>
    have recorded : InStep (fun rowId other => rowId = other ∧ Plain rowId)
        (recordRow row (if keyed then none else some position))
        (recordRow row (if keyed then none else some position)) := by
      intro page plain
      exact ⟨⟨rfl, Form.rowIdentifier_plain _⟩, rfl, plain.kept (recordRow_keeping row _ page)⟩
    unfold writeRows
    refine recorded.bind fun rowId other same => ?_
    obtain ⟨rfl, plain⟩ := same
    have others : InStep Alike
        (do
          let written ← writeRow request body row rowId
          return written ++ (← writeRows request body table keyed (position + 1) (rowId :: seen) rest))
        (do
          let written ← writeRow (request.posting submission) body' row rowId
          return written ++ (← writeRows (request.posting submission) body' table keyed (position + 1)
            (rowId :: seen) rest)) := by
      refine (writeRow_inStep request submission alike row plain).bind fun _ _ written => ?_
      exact (inductionHypothesis _ _).bind fun _ _ later => .pure (written.append later)
    dsimp only
    split
    · exact (InStep.calm (report_calm _ _)).bind fun _ _ _ => others
    · exact others

/-- The rows of an answer are written alike. -/
theorem writeAnswer_inStep {body body' : String} (alike : Alike body body') (binding : Binding)
    (rows : List Row) :
    InStep Alike (writeAnswer request body binding rows)
      (writeAnswer (request.posting submission) body' binding rows) := by
  have counted : Within Calm (modify fun page : Page => { page with rowCount := rows.length }) :=
    .step fun _ => .beside rfl rfl
  have written (keyed : Bool) : InStep Alike
      (do
        let written ← writeRows request body binding.table keyed 0 [] rows
        let page ← MonadState.get
        return fillCounters page.rowCount page.fieldCount written)
      (do
        let written ← writeRows (request.posting submission) body' binding.table keyed 0 [] rows
        let page ← MonadState.get
        return fillCounters page.rowCount page.fieldCount written) := by
    refine (writeRows_inStep request submission alike _ keyed 0 [] rows).bind fun _ _ texts => ?_
    refine Lockstep.get.bind fun page other same => ?_
    obtain ⟨rfl, -⟩ := same
    exact .pure (fillCounters_alike page.rowCount page.fieldCount texts)
  unfold writeAnswer
  refine (InStep.calm counted).bind fun _ _ _ => Lockstep.get.bind fun page other same => ?_
  obtain ⟨rfl, -⟩ := same
  dsimp only
  split
  · exact (InStep.calm (report_calm _ _)).bind fun _ _ _ => written _
  · exact written _

/-- Results of row loops are in step if they are texts that are alike, or the same
failure, whose notice is plain. -/
inductive Outcome : Except Failure String → Except Failure String → Prop where
  /-- Texts that are alike. -/
  | written {left right : String} (alike : Alike left right) : Outcome (.ok left) (.ok right)
  /-- The same failure. -/
  | failed {failure : Failure} (notice : Plain failure.userMessage) :
      Outcome (.error failure) (.error failure)

/-- A row loop writes alike. -/
theorem writeRowLoop_inStep {body body' : String} (alike : Alike body body') :
    InStep Outcome (writeRowLoop request body) (writeRowLoop (request.posting submission) body') := by
  have cleared :
      Within Calm (modify fun page : Page => { page with rowCount := 0, fieldCount := 0 }) :=
    .step fun _ => .beside rfl rfl
  have asked (connection : Connection) (query : Query) :
      InStep Eq (runQuery connection query) (runQuery connection query) :=
    .keeping (runQuery_within (fun page => .refl page.form) connection)
  unfold writeRowLoop
  refine (InStep.calm cleared).bind fun _ _ _ => Lockstep.get.bind fun page other same => ?_
  obtain ⟨rfl, -⟩ := same
  dsimp only
  rw [Request.posting_connections]
  split
  · exact InStep.reported _ _ (.written Node.alike_empty)
  · rename_i binding bound
    split
    · exact InStep.reported _ _ (.written Node.alike_empty)
    · rename_i connection resolved
      refine (asked connection _).bind fun answer other same => ?_
      subst same
      split
      · have notice : Plain "Internal database error!" := by
          decide
        exact InStep.reported _ _ (.written notice.tidy.alike)
      · exact .pure (.failed (by decide))
      · refine (writeAnswer_inStep request submission alike binding _).bind fun _ _ texts => ?_
        exact .pure (.written texts)

/-- The empty text in front makes no difference. -/
theorem joinBehind_empty (later : StateM Page (Except Failure String)) :
    joinBehind (.ok "") later = later := by
  have same (written : Except Failure String) : written.map ("" ++ ·) = written := by
    cases written with
    | error failure => rfl
    | ok text => exact congrArg Except.ok String.empty_append
  unfold joinBehind
  simp only [same]
  exact bind_pure later

/-- Results in step may be put in front of writers in step. -/
theorem joinBehind_inStep {written written' : Except Failure String} (here : Outcome written written')
    {later later' : StateM Page (Except Failure String)} (behind : InStep Outcome later later') :
    InStep Outcome (joinBehind written later) (joinBehind written' later') := by
  cases here with
  | failed notice => exact .pure (.failed notice)
  | written alike =>
    refine behind.bind fun _ _ outcome => ?_
    cases outcome with
    | failed notice => exact .pure (.failed notice)
    | written texts => exact .pure (.written (alike.append texts))

/-- Row loops among nodes write alike. -/
theorem writeRowLoopsAll_inStep {nodes others : List Node} (step : Node.InStep nodes others) :
    InStep Outcome (writeRowLoopsAll request nodes)
      (writeRowLoopsAll (request.posting submission) others) := by
  induction step with
  | nil => exact .pure (.written Node.alike_empty)
  | first plain rest inductionHypothesis =>
    rw [writeRowLoopsAll_text, ← joinBehind_empty (writeRowLoopsAll (request.posting submission) _)]
    exact joinBehind_inStep (.written (plain.alike (by decide))) inductionHypothesis
  | second plain rest inductionHypothesis =>
    rw [writeRowLoopsAll_text, ← joinBehind_empty (writeRowLoopsAll request _)]
    exact joinBehind_inStep (.written (Text.Plain.alike (by decide) plain)) inductionHypothesis
  | tag proper rest inductionHypothesis =>
    rw [writeRowLoopsAll_tag, writeRowLoopsAll_tag]
    exact joinBehind_inStep (.written proper.tidy.alike) inductionHypothesis
  | «section» opens closes children rest ignored inductionHypothesis =>
    rw [writeRowLoopsAll_section, writeRowLoopsAll_section]
    exact (writeRowLoop_inStep request submission children.sources.trim).bind fun _ _ here =>
      joinBehind_inStep here inductionHypothesis

/-! ## Sections -/

/-- A form section is written alike. -/
theorem writeSection_inStep {source source' : String} (alike : Alike source source') :
    InStep Alike (writeSection request source) (writeSection (request.posting submission) source') := by
  have settled := Node.settleExpandable_alike alike request.options.expandable
  unfold writeSection
  dsimp only
  rw [Request.posting_options]
  refine (writeFieldsLoops_inStep request submission settled).bind fun _ _ looped => ?_
  refine (writeRowLoopsAll_inStep request submission (Node.parse_inStep looped ["rowLoop"])).bind
    fun _ _ outcome => ?_
  cases outcome with
  | written texts => exact .pure texts
  | failed notice => exact .pure (notice.alike notice)

/-- The form sections of a text are written alike. -/
theorem writeSections_inStep {source source' : String} (alike : Alike source source') :
    InStep Alike (writeSections request source) (writeSections (request.posting submission) source') := by
  refine .writeAll (Node.parse_inStep alike ["form"]).aligned ?_ ?_ ?_
  · rintro _ ⟨content, rfl, plain⟩
    exact ⟨content, rfl, plain⟩
  · rintro _ ⟨content, rfl, plain⟩
    exact ⟨content, rfl, plain⟩
  · rintro _ _ (proper | ⟨opens, closes, children⟩)
    · exact .pure proper.tidy.alike
    · apply writeSection_inStep
      exact (opens.tidy.alike.append children.sources).append closes.tidy.alike

/-- The passes before the last one lead to texts that are alike. -/
theorem writeLoops_inStep {template : String} (tidy : Tidy template) :
    InStep Alike (writeLoops request template) (writeLoops (request.posting submission) template) := by
  have started : Within Calm (modify start) := .step start_calm
  unfold writeLoops
  dsimp only
  rw [Request.posting_kind]
  refine (InStep.calm started).bind fun _ _ _ => Lockstep.get.bind fun page other same => ?_
  obtain ⟨rfl, -⟩ := same
  have shown := page.diagnostics.errorsHtml_plain (page.form.errorScope request.kind)
  exact writeSections_inStep request submission (Node.settleErrors_alike tidy.alike shown)

/-! ## Single tags -/

/-- The start of the form is written in step. -/
theorem writeFormStart_inStep (attributes : Attributes) :
    InStep (fun _ _ => True) (writeFormStart request attributes)
      (writeFormStart (request.posting submission) attributes) := by
  unfold writeFormStart
  dsimp only
  refine Lockstep.get.bind fun page other same => ?_
  obtain ⟨rfl, plain⟩ := same
  have opened : InStep Eq (set { page with issued := page.issued + 1 } : StateM Page PUnit)
      (set { page with issued := page.issued + 1 }) :=
    Lockstep.set plain
  refine opened.bind fun _ _ _ => ?_
  split
  · exact (writeWholes_inStep request submission _).bind fun _ _ _ => .pure trivial
  · exact (Lockstep.pure Node.alike_empty).bind fun _ _ _ => .pure trivial

/-- The field that a tag names is written in step. -/
theorem writeNamed_inStep {mark : Tag} (proper : mark.Proper) :
    InStep (fun _ _ => True) (writeNamed request mark) (writeNamed (request.posting submission) mark) := by
  unfold writeNamed
  dsimp only
  refine Lockstep.get.bind fun page other same => ?_
  obtain ⟨rfl, -⟩ := same
  split
  · exact InStep.reported _ _ trivial
  · split
    · exact InStep.reported _ _ trivial
    · split
      · exact InStep.reported _ _ trivial
      · refine (writeField_inStep request submission proper.tidy _ proper.attributes.names _ _).bind
          fun _ _ _ => ?_
        exact (InStep.calm (markEmitted_calm _)).bind fun _ _ _ => .pure trivial

/-- A single tag is written in step. -/
theorem writeTag_inStep {mark : Tag} (proper : mark.Proper) :
    InStep (fun _ _ => True) (writeTag request mark) (writeTag (request.posting submission) mark) := by
  unfold writeTag
  split
  · exact .pure trivial
  · exact writeFormStart_inStep request submission _
  · exact .pure trivial
  · exact (InStep.calm (writeFields_calm request _)).mono fun _ _ _ => trivial
  · exact writeNamed_inStep request submission proper
  · exact .pure trivial
  · exact .pure trivial
  · exact Lockstep.get.bind fun _ _ _ => .pure trivial
  · exact Lockstep.get.bind fun _ _ _ => .pure trivial
  · exact .pure trivial

/-- Writes one token of the last pass. -/
def writeToken : Token → StateM Page String
  | .text content => return content
  | .tag mark => writeTag request mark

/-- The last pass does the same to texts that are alike. -/
theorem writeTags_inStep {source source' : String} (alike : Alike source source') :
    InStep (fun _ _ => True) (writeTags request source)
      (writeTags (request.posting submission) source') := by
  have written : InStep (Aligned (fun _ => True) fun _ _ => True)
      ((Token.tokenize source).mapM (writeToken request))
      ((Token.tokenize source').mapM (writeToken (request.posting submission))) := by
    refine Lockstep.mapM alike.tokens ?_ ?_ ?_
    · rintro _ ⟨content, rfl, -⟩
      exact ⟨content, rfl, trivial⟩
    · rintro _ ⟨content, rfl, -⟩
      exact ⟨content, rfl, trivial⟩
    · rintro _ _ ⟨mark, proper, rfl, rfl⟩
      exact writeTag_inStep request submission proper
  exact written.bind fun _ _ _ => .pure trivial

/-- Posted data cannot steer a page. Whatever two requests for the same display
have posted, from the same page with plain names and a template whose texts hold no
brace they end with the same page: the same fields emitted, rows and fields counted,
tokens issued, queries asked and things reported, and the same form with its
catalog and noted rows. The last pass reads the same tags in the same order.

Proof: the passes before the last one are in lockstep and end with texts that are
alike, so the last pass is in lockstep as well. -/
theorem pages_written_in_step (request : Request) (template : String) (page : Page)
    (first second : Submission) (named : page.form.NamesPlain)
    (texts : ∀ content, .text content ∈ Token.tokenize template → Plain content) :
    ((render (request.posting first) template).run page).2 =
        ((render (request.posting second) template).run page).2 ∧
      Alike ((writeLoops (request.posting first) template).run page).1
        ((writeLoops (request.posting second) template).run page).1 := by
  have tidy := Token.tidy_of_tokens texts
  have loops := writeLoops_inStep (request.posting first) second tidy
  constructor
  · rw [render_eq, render_eq]
    have whole := loops.bind fun _ _ alike => writeTags_inStep (request.posting first) second alike
    exact (whole page named).2.1
  · exact (loops page named).1

/-- A form with a note and a hidden mark. -/
def noteForm : Form where
  name := "note"
  catalog := ⟨[{ field := { name := "note" } }, { field := { name := "mark", input := .hidden } }]⟩
  insertTemplate := ""
  editTemplate := ""
  browserValidation := true

/-- An update of it, without a database. -/
def noteRequest : Request where
  kind := .update
  formId := "form1"
  connections := { defaultName := "" }
  issuer := fun number => ⟨"c" ++ Decimal.natText number, "t"⟩

/-- A template that repeats its body for every field. -/
def noteTemplate : String :=
  "\x7bform\x7d\x7bfieldsLoop\x7d<p>\x7bfield\x7d</p>\x7b/fieldsLoop\x7d\x7b/form\x7d"

/-- Values that read like tags. -/
def noteSubmission : Submission :=
  .ofPairs [("note", "\x7b/form\x7d\x7bfields\x7d"), ("mark", "\x7bform\x7d")]

/-- Values that read like tags change nothing but the text. -/
theorem note_written_in_step :
    noteForm.NamesPlain ∧
      (∀ content, .text content ∈ Token.tokenize noteTemplate → Plain content) ∧
      ((render (noteRequest.posting noteSubmission) noteTemplate).run { form := noteForm }).2 =
        ((render (noteRequest.posting .empty) noteTemplate).run { form := noteForm }).2 ∧
      Alike ((writeLoops (noteRequest.posting noteSubmission) noteTemplate).run { form := noteForm }).1
        ((writeLoops (noteRequest.posting .empty) noteTemplate).run { form := noteForm }).1 := by
  have named : noteForm.NamesPlain := by
    intro field member
    rcases List.mem_cons.mp member with rfl | later
    · exact ⟨by decide, fun entry none => by cases none⟩
    · rw [List.mem_singleton.mp later]
      exact ⟨by decide, fun entry none => by cases none⟩
  have read : Token.tokenize noteTemplate =
      [.tag ⟨"form", false, "", "\x7bform\x7d"⟩,
        .tag ⟨"fieldsLoop", false, "", "\x7bfieldsLoop\x7d"⟩, .text "<p>",
        .tag ⟨"field", false, "", "\x7bfield\x7d"⟩, .text "</p>",
        .tag ⟨"fieldsLoop", true, "", "\x7b/fieldsLoop\x7d"⟩,
        .tag ⟨"form", true, "", "\x7b/form\x7d"⟩] := by
    decide +kernel
  have texts : ∀ content, .text content ∈ Token.tokenize noteTemplate → Plain content := by
    intro content member
    rw [read] at member
    simp only [List.mem_cons, Token.text.injEq, reduceCtorEq, false_or, List.not_mem_nil,
      or_false] at member
    rcases member with rfl | rfl
    · decide
    · decide
  exact ⟨named, texts, pages_written_in_step noteRequest noteTemplate { form := noteForm }
    noteSubmission .empty named texts⟩

end Page

end Formwork
