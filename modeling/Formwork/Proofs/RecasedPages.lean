import Formwork.Proofs.PostedValues
import Formwork.Proofs.RecasedTags

/-!
# Pages with tag names in any case

No pass over a page tells the case of a tag name. Texts that differ in the case of names are written
in lockstep: every pass does the same to the page, and its texts differ in the case of names again,
namely of the tags that are left for later passes. So does the text of the whole page, in the tags
that nobody settled.
-/

namespace Formwork

/-! ## Templates -/

/-- What stands in front of the name of a tag. -/
def Tag.start (mark : Tag) : String := if mark.closing then "\x7b/" else "\x7b"

/-- The text may stand for the token in another template: it is the same text, or the same tag with
its name in another case. -/
inductive Token.Respelled : Token → String → Prop where
  /-- A text. -/
  | text (content : String) : Respelled (.text content) content
  /-- A tag. -/
  | tag {mark : Tag} {name behind : String} (source : mark.source = mark.start ++ mark.name ++ behind)
      (lower : name.toLower = mark.name.toLower) :
      Respelled (.tag mark) (mark.start ++ name ++ behind)

/-- An opening tag may have its name in another case. -/
theorem Token.Respelled.written {name other given : String} (lower : other.toLower = name.toLower) :
    Respelled (.tag (.written name given)) ("\x7b" ++ other ++ (given ++ "\x7d")) :=
  @Respelled.tag (.written name given) other (given ++ "\x7d") String.append_assoc lower

/-- So may a closing one. -/
theorem Token.Respelled.ended {name other : String} (lower : other.toLower = name.toLower) :
    Respelled (.tag (.ended name)) ("\x7b/" ++ other ++ "\x7d") :=
  @Respelled.tag (.ended name) other "\x7d" rfl lower

/-- The second template is the first with names of tags in other cases. -/
def Text.Respelled (template other : String) : Prop :=
  ∃ texts, List.Forall₂ Token.Respelled (Token.tokenize template) texts ∧ other = String.join texts

/-- What may stand for a token that was read differs from it in the case of names. -/
theorem Token.Respelled.recased {token : Token} {text : String} (respelled : token.Respelled text)
    (read : token.Recased token) : Text.Recased token.source text := by
  cases respelled with
  | text => exact .refl _
  | @tag mark name behind source lower =>
    cases read with
    | tag same =>
      have spelled {slash : List Char} (slashed : slash = [] ∨ slash = ['/']) :
          Text.RecasedChars ('\x7b' :: (slash ++ mark.name.toList ++ behind.toList))
            ('\x7b' :: (slash ++ name.toList ++ behind.toList)) := by
        exact .name ⟨slashed, same.named, (Text.toLower_eq_iff.mp lower).symm⟩ (.refl _)
      change Text.Recased mark.source _
      rw [source]
      unfold Tag.start Text.Recased
      split
      · simpa using spelled (.inr rfl)
      · simpa using spelled (.inl rfl)

/-- So does the other template from the first. -/
theorem Text.Respelled.recased {template other : String} (respelled : Text.Respelled template other) :
    Text.Recased template other := by
  obtain ⟨texts, each, rfl⟩ := respelled
  have read : ∀ token ∈ Token.tokenize template, token.Recased token :=
    List.forall₂_same.mp (Text.Recased.refl template).tokens
  rw [← Token.sources_tokenize template]
  generalize Token.tokenize template = tokens at each read
  refine .join (List.forall₂_map_left_iff.mpr ?_)
  exact ((List.forall₂_and_left _ _).mpr ⟨read, each⟩).imp fun _ _ both => both.2.recased both.1

namespace Page

open Text (Recased)

/-! ## Passes that leave the page -/

/-- The first tag without a name is given one in any case. -/
theorem nameFirst_recased (name : String) {tokens others : List Token}
    (same : List.Forall₂ Token.Recased tokens others) :
    List.Forall₂ Token.Recased (nameFirst name tokens) (nameFirst name others) := by
  induction same with
  | nil => exact .nil
  | @cons token other rest rest' here later inductionHypothesis =>
    cases here with
    | text same => exact .cons (.text same) inductionHypothesis
    | tag same =>
      unfold nameFirst
      rw [same.opens, same.attributes]
      split
      · exact .cons (.tag (same.withAttributes _)) later
      · exact .cons (.tag same) inductionHypothesis

/-- The bodies that a loop over fields writes for a field differ in the case of names again. -/
theorem nameFirstTag_recased (name : String) {body body' : String} (recased : Recased body body') :
    Recased (nameFirstTag body name) (nameFirstTag body' name) := by
  have named := nameFirst_recased name recased.tokens
  exact .join (List.rel_map (fun ⦃_ _⦄ same => Token.Recased.source same) named)

/-- So do bodies with the identifier of a row filled in. -/
theorem fillRowId_recased (rowId : String) {body body' : String} (recased : Recased body body') :
    Recased (fillRowId rowId body) (fillRowId rowId body') := by
  refine recased.change fun token other same => ?_
  cases same with
  | text same => exact same
  | tag same =>
    dsimp only
    rw [same.opens]
    split
    · exact .refl _
    · exact same.source

/-- And texts with the counters filled in. -/
theorem fillCounters_recased (rowCount fieldCount : Nat) {text text' : String}
    (recased : Recased text text') :
    Recased (fillCounters rowCount fieldCount text) (fillCounters rowCount fieldCount text') := by
  refine recased.change fun token other same => ?_
  cases same with
  | text same => exact same
  | tag same =>
    dsimp only
    rw [same.opens, same.opens]
    split
    · exact .refl _
    · split
      · exact .refl _
      · exact same.source

/-- A tag stands for the same field of a row. -/
theorem rowFieldName?_recased {mark other : Tag} (same : mark.Recased other) :
    rowFieldName? mark = rowFieldName? other := by
  unfold rowFieldName?
  rw [same.opens, same.attributes]

/-- As many tags stand for fields on both sides. -/
theorem countFields_recased {tokens others : List Token}
    (same : List.Forall₂ Token.Recased tokens others) : countFields tokens = countFields others := by
  refine List.Forall₂.length_eq (List.rel_filter (fun token other here => ?_) same)
  cases here with
  | text => rfl
  | tag here =>
    dsimp only
    rw [rowFieldName?_recased here]

/-! ## Writers -/

/-- Two writers that do the same to every page and give related values. -/
def Alongside {α β : Type} (related : α → β → Prop) (left : StateM Page α) (right : StateM Page β) :
    Prop :=
  Lockstep (fun _ => True) related left right

/-- A writer does the same as itself. -/
theorem Alongside.same {α : Type} {writer : StateM Page α} : Alongside Eq writer writer :=
  Lockstep.same fun _ _ => trivial

/-- So its text differs from itself at most in the case of names. -/
theorem Alongside.alike {writer : StateM Page String} : Alongside Recased writer writer :=
  Alongside.same.mono fun _ _ => Recased.of_eq

/-- Writers behind the same writer, whatever value it gives. -/
theorem Alongside.behind {α β γ : Type} {related : β → γ → Prop} {writer : StateM Page α}
    {next : α → StateM Page β} {next' : α → StateM Page γ}
    (both : ∀ value, Alongside related (next value) (next' value)) :
    Alongside related (writer >>= next) (writer >>= next') :=
  Alongside.same.bind fun value _ same => same ▸ both value

/-- A report leads to the same page. -/
theorem Alongside.reported {α β : Type} {related : α → β → Prop} (level : Level) (message : String)
    {value : α} {other : β} (values : related value other) :
    Alongside related (do report level message; return value)
      (do report level message; return other) :=
  .behind fun _ => .pure values

/-- Texts written one after another. -/
theorem Alongside.all {α β : Type} {pair : α → β → Prop} {items : List α} {others : List β}
    {write : α → StateM Page String} {write' : β → StateM Page String}
    (paired : List.Forall₂ pair items others)
    (both : ∀ item other, pair item other → Alongside Recased (write item) (write' other)) :
    Alongside Recased (writeAll items write) (writeAll others write') :=
  (Lockstep.each paired both).bind fun _ _ texts => .pure (.join texts)

variable (request : Request)

/-- A field is written alike from two tags that differ in the case of their name. -/
theorem writeField_recased {source source' : String} (same : Recased source source')
    (name : String) (attributes : Attributes) (value : Option String) :
    Alongside Recased (writeField request source name attributes value)
      (writeField request source' name attributes value) := by
  rw [writeField_eq, writeField_eq]
  unfold showField
  refine Alongside.behind fun shown => ?_
  cases shown with
  | none => exact Alongside.reported _ _ (.refl _)
  | some widget =>
    dsimp only
    split
    · exact .pure (.refl _)
    · exact .pure (.refl _)
    · exact .pure (.refl _)
    · exact Alongside.reported _ _ same

/-! ### Loops over fields -/

/-- A loop over fields is written alike from bodies that differ in the case of names. -/
theorem writeFieldsLoop_recased (attributes : Attributes) {body body' : String}
    (recased : Recased body body') :
    Alongside Recased (writeFieldsLoop request attributes body)
      (writeFieldsLoop request attributes body') := by
  have bodies (names : List String) :
      Recased (String.join (names.map (nameFirstTag body)))
        (String.join (names.map (nameFirstTag body'))) := by
    refine .join (List.forall₂_map_left_iff.mpr (List.forall₂_map_right_iff.mpr ?_))
    exact List.forall₂_same.mpr fun name _ => nameFirstTag_recased name recased
  have repeated (hidden : String) : Alongside Recased
      (do
        let visible := loopVisible request attributes (← MonadState.get)
        return hidden ++ String.join (visible.map (nameFirstTag body)))
      (do
        let visible := loopVisible request attributes (← MonadState.get)
        return hidden ++ String.join (visible.map (nameFirstTag body'))) := by
    refine Alongside.behind fun page => ?_
    exact .pure ((Recased.refl hidden).append (bodies _))
  unfold writeFieldsLoop
  dsimp only
  split
  · refine Alongside.behind fun page => ?_
    refine Alongside.behind fun hidden => ?_
    exact repeated hidden
  · exact repeated ""

/-- So are all of a section. -/
theorem writeFieldsLoops_recased {source source' : String} (recased : Recased source source') :
    Alongside Recased (writeFieldsLoops request source) (writeFieldsLoops request source') := by
  refine .all (Node.parse_recased recased ["fieldsLoop"]).paired fun node other pair => ?_
  cases pair with
  | text same => exact .pure same
  | tag same => exact .pure same.source
  | «section» opens closes children =>
    dsimp only
    rw [opens.attributes]
    exact writeFieldsLoop_recased request _ children.sources.trim

/-! ### Rows -/

/-- Parts of a row that are the same but for the case of names. -/
inductive RowPart.Recased : RowPart → RowPart → Prop where
  /-- Settled texts. -/
  | settled {text other : String} (same : Text.Recased text other) :
      Recased (.settled text) (.settled other)
  /-- The same field, left for later. -/
  | late {source source' name : String} {attributes : Attributes} (same : Text.Recased source source') :
      Recased (.late source name attributes) (.late source' name attributes)

/-- A token of a row is settled alike. -/
theorem settlePart_recased (row : Row) (rowId : String) {token other : Token}
    (recased : token.Recased other) :
    Alongside RowPart.Recased (settlePart request row rowId token)
      (settlePart request row rowId other) := by
  cases recased with
  | text same => exact .pure (.settled same)
  | tag same =>
    unfold settlePart
    dsimp only
    rw [rowFieldName?_recased same, same.attributes]
    split
    · exact .pure (.settled same.source)
    · have renamed (attributes : Attributes) := (same.withAttributes attributes).source
      refine Alongside.behind fun page => ?_
      split
      · exact Alongside.reported _ _ (.settled (.refl _))
      · split
        · exact .pure (.late (renamed _))
        · exact (writeField_recased request (renamed _) _ _ _).bind fun _ _ texts =>
            .pure (.settled texts)

/-- What was left for later is written alike. -/
theorem finishPart_recased {part other : RowPart} (recased : part.Recased other) :
    Alongside Recased (finishPart request part) (finishPart request other) := by
  cases recased with
  | settled same => exact .pure same
  | late same => exact writeField_recased request same _ _ _

/-- A row is written alike. -/
theorem writeRow_recased {body body' : String} (recased : Recased body body') (row : Row)
    (rowId : String) :
    Alongside Recased (writeRow request body row rowId) (writeRow request body' row rowId) := by
  have tokens := (fillRowId_recased rowId recased).tokens
  unfold writeRow
  dsimp only
  rw [countFields_recased tokens]
  refine (Lockstep.each tokens fun _ _ => settlePart_recased request row rowId).bind
    fun _ _ parts => ?_
  refine (Alongside.all parts fun _ _ => finishPart_recased request).bind fun _ _ texts => ?_
  exact Alongside.behind fun _ => .pure texts

/-- Rows are written alike, one after another. -/
theorem writeRows_recased {body body' : String} (recased : Recased body body') (table : String)
    (keyed : Bool) (position : Nat) (seen : List String) (rows : List Row) :
    Alongside Recased (writeRows request body table keyed position seen rows)
      (writeRows request body' table keyed position seen rows) := by
  induction rows generalizing position seen with
  | nil => exact .pure (.refl _)
  | cons row rest inductionHypothesis =>
    unfold writeRows
    refine Alongside.behind fun rowId => ?_
    dsimp only
    refine .perhaps Alongside.same ?_
    refine (writeRow_recased request recased row rowId).bind fun _ _ written => ?_
    exact (inductionHypothesis _ _).bind fun _ _ later => .pure (written.append later)

/-- The rows of an answer are written alike. -/
theorem writeAnswer_recased {body body' : String} (recased : Recased body body') (binding : Binding)
    (rows : List Row) :
    Alongside Recased (writeAnswer request body binding rows)
      (writeAnswer request body' binding rows) := by
  unfold writeAnswer
  refine Alongside.behind fun _ => Alongside.behind fun page => ?_
  dsimp only
  refine .perhaps Alongside.same ?_
  refine (writeRows_recased request recased _ _ 0 [] rows).bind fun _ _ texts => ?_
  refine Alongside.behind fun page => ?_
  exact .pure (fillCounters_recased page.rowCount page.fieldCount texts)

/-- Results of row loops that are the same but for the case of names. -/
inductive SameOutcome : Except Failure String → Except Failure String → Prop where
  /-- Texts. -/
  | written {text other : String} (same : Recased text other) : SameOutcome (.ok text) (.ok other)
  /-- The same failure. -/
  | failed (failure : Failure) : SameOutcome (.error failure) (.error failure)

/-- A row loop is written alike from bodies that differ in the case of names. -/
theorem writeRowLoop_recased {body body' : String} (recased : Recased body body') :
    Alongside SameOutcome (writeRowLoop request body) (writeRowLoop request body') := by
  unfold writeRowLoop
  refine Alongside.behind fun _ => Alongside.behind fun page => ?_
  dsimp only
  split
  · exact Alongside.reported _ _ (.written (.refl _))
  · split
    · exact Alongside.reported _ _ (.written (.refl _))
    · refine Alongside.behind fun answer => ?_
      split
      · exact Alongside.reported _ _ (.written (.refl _))
      · exact .pure (.failed _)
      · exact (writeAnswer_recased request recased _ _).bind fun _ _ texts =>
          .pure (.written texts)

/-- Results may be put in front of what is written behind. -/
theorem joinBehind_recased {written written' : Except Failure String}
    (here : SameOutcome written written') {later later' : StateM Page (Except Failure String)}
    (behind : Alongside SameOutcome later later') :
    Alongside SameOutcome (joinBehind written later) (joinBehind written' later') := by
  cases here with
  | failed failure => exact .pure (.failed failure)
  | written same =>
    refine behind.bind fun _ _ outcome => ?_
    cases outcome with
    | failed failure => exact .pure (.failed failure)
    | written texts => exact .pure (.written (same.append texts))

/-- The row loops among nodes are written alike. -/
theorem writeRowLoopsAll_recased {nodes others : List Node} (recased : Node.Recased nodes others) :
    Alongside SameOutcome (writeRowLoopsAll request nodes) (writeRowLoopsAll request others) := by
  induction recased with
  | nil => exact .pure (.written (.refl _))
  | text same rest inductionHypothesis =>
    rw [writeRowLoopsAll_text, writeRowLoopsAll_text]
    exact joinBehind_recased (.written same) inductionHypothesis
  | tag same rest inductionHypothesis =>
    rw [writeRowLoopsAll_tag, writeRowLoopsAll_tag]
    exact joinBehind_recased (.written same.source) inductionHypothesis
  | «section» opens closes children rest ignored inductionHypothesis =>
    rw [writeRowLoopsAll_section, writeRowLoopsAll_section]
    exact (writeRowLoop_recased request children.sources.trim).bind fun _ _ here =>
      joinBehind_recased here inductionHypothesis

/-! ### Sections -/

/-- A form section is written alike. -/
theorem writeSection_recased {source source' : String} (recased : Recased source source') :
    Alongside Recased (writeSection request source) (writeSection request source') := by
  have settled := Node.settleExpandable_recased recased request.options.expandable
  unfold writeSection
  dsimp only
  refine (writeFieldsLoops_recased request settled).bind fun _ _ looped => ?_
  refine (writeRowLoopsAll_recased request (Node.parse_recased looped ["rowLoop"])).bind
    fun _ _ outcome => ?_
  cases outcome with
  | written texts => exact .pure texts
  | failed failure => exact .pure (.refl _)

/-- So are the form sections of a text. -/
theorem writeSections_recased {source source' : String} (recased : Recased source source') :
    Alongside Recased (writeSections request source) (writeSections request source') := by
  refine .all (Node.parse_recased recased ["form"]).paired fun node other pair => ?_
  cases pair with
  | text same => exact .pure same
  | tag same => exact .pure same.source
  | «section» opens closes children =>
    exact writeSection_recased request
      ((opens.source.append children.sources).append closes.source)

/-! ### Single tags -/

/-- The field that a tag names is written alike. -/
theorem writeNamed_recased {mark other : Tag} (same : mark.Recased other) :
    Alongside Recased (writeNamed request mark) (writeNamed request other) := by
  unfold writeNamed
  dsimp only
  rw [same.attributes]
  refine Alongside.behind fun page => ?_
  split
  · exact Alongside.reported _ _ (.refl _)
  · split
    · exact Alongside.reported _ _ (.refl _)
    · split
      · exact Alongside.reported _ _ (.refl _)
      · refine (writeField_recased request same.source _ _ _).bind fun _ _ texts => ?_
        exact Alongside.behind fun _ => .pure texts

/-- A single tag is written alike. -/
theorem writeTag_recased {mark other : Tag} (same : mark.Recased other) :
    Alongside Recased (writeTag request mark) (writeTag request other) := by
  unfold writeTag
  rw [same.key, same.attributes]
  split
  · exact .pure (.refl _)
  · exact Alongside.alike
  · exact .pure (.refl _)
  · exact Alongside.alike
  · exact writeNamed_recased request same
  · exact .pure (.refl _)
  · exact .pure (.refl _)
  · exact Alongside.alike
  · exact Alongside.alike
  · exact .pure same.source

/-- So are all tags of a text. -/
theorem writeTags_recased {source source' : String} (recased : Recased source source') :
    Alongside Recased (writeTags request source) (writeTags request source') := by
  refine .all recased.tokens fun token other pair => ?_
  cases pair with
  | text same => exact .pure same
  | tag same => exact writeTag_recased request same

/-- A page is written alike from templates that differ in the case of names. -/
theorem render_recased {template other : String} (recased : Recased template other) :
    Alongside Recased (render request template) (render request other) := by
  unfold render
  refine Alongside.behind fun _ => Alongside.behind fun page => ?_
  refine (writeSections_recased request (Node.settleErrors_recased recased _)).bind
    fun _ _ sections => ?_
  exact writeTags_recased request sections

/-- Tag names are names in any case. From whatever page and for whatever request, two templates
that differ in the case of the names of their tags lead to the same page: the same fields emitted,
rows and fields counted, things reported, and the same form with its catalog and noted rows. Their
texts are the same in lower case.

Proof: every pass is in lockstep, and its texts differ in the case of names again. -/
theorem rendered_in_any_case (request : Request) (page : Page) (template other : String)
    (respelled : Text.Respelled template other) :
    ((render request template).run page).2 = ((render request other).run page).2 ∧
      ((render request template).run page).1.toLower =
        ((render request other).run page).1.toLower := by
  obtain ⟨texts, pages, -⟩ := render_recased request respelled.recased page trivial
  exact ⟨pages, texts.toLower⟩

/-- A template with a field, and a tag that nobody settles. -/
def plainTemplate : String :=
  "\x7bform\x7d<p>\x7bfield name=\"note\"\x7d</p>\x7b/form\x7d\x7bmore\x7d"

/-- The same with other letters in upper case. -/
def shoutedTemplate : String :=
  "\x7bForm\x7d<p>\x7bFIELD name=\"note\"\x7d</p>\x7b/FORM\x7d\x7bMore\x7d"

/-- Both lead to the same page and to the same text in lower case. -/
theorem shouted_like_plain :
    Text.Respelled plainTemplate shoutedTemplate ∧
      ((render noteRequest plainTemplate).run { form := noteForm }).2 =
        ((render noteRequest shoutedTemplate).run { form := noteForm }).2 ∧
      ((render noteRequest plainTemplate).run { form := noteForm }).1.toLower =
        ((render noteRequest shoutedTemplate).run { form := noteForm }).1.toLower := by
  have read : Token.tokenize plainTemplate =
      [.tag (.written "form" ""), .text "<p>", .tag (.written "field" " name=\"note\""),
        .text "</p>", .tag (.ended "form"), .tag (.written "more" "")] := by
    decide +kernel
  have respelled : Text.Respelled plainTemplate shoutedTemplate := by
    have form : "Form".toLower = "form".toLower := Text.toLower_eq_iff.mpr (by decide)
    have field : "FIELD".toLower = "field".toLower := Text.toLower_eq_iff.mpr (by decide)
    have ended : "FORM".toLower = "form".toLower := Text.toLower_eq_iff.mpr (by decide)
    have more : "More".toLower = "more".toLower := Text.toLower_eq_iff.mpr (by decide)
    unfold Text.Respelled
    rw [read]
    refine ⟨_, .cons (.written form) (.cons (.text _) (.cons (.written field) (.cons (.text _)
      (.cons (.ended ended) (.cons (.written more) .nil))))), ?_⟩
    simp [shoutedTemplate]
  exact ⟨respelled, rendered_in_any_case noteRequest { form := noteForm } _ _ respelled⟩

end Page

end Formwork
