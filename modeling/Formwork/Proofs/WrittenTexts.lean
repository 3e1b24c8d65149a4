import Formwork.Proofs.KeptLoops
import Formwork.Proofs.PostedValues
import Formwork.Proofs.SpelledTexts

/-!
# Passes over texts put together

A pass over a text that is put together writes its parts one after another, as long as
braces do not reach from one part into the next. A plain text is left, and so is a text
without the tags that a pass looks for; where a section of these tags stands, what is
written for it takes its place.
-/

namespace Formwork.Page

open Text (Plain Tidy pieces)

/-! ## The last pass over texts put together -/

section LastPass

variable (request : Request)

/-- Writes one piece of a text. -/
def writePiece : Piece → StateM Page String
  | .char c => return String.singleton c
  | .tag mark => writeTag request mark

/-- The texts of the items of a list, of which the first is written first. -/
theorem writeAll_cons {α : Type} (item : α) (rest : List α) (write : α → StateM Page String) :
    writeAll (item :: rest) write = do
      let first ← write item
      let others ← writeAll rest write
      return first ++ others := by
  simp [writeAll, List.mapM_cons, String.join_cons]

/-- Lists are written one after another. -/
theorem writeAll_append {α : Type} (left right : List α) (write : α → StateM Page String) :
    writeAll (left ++ right) write = do
      let first ← writeAll left write
      let others ← writeAll right write
      return first ++ others := by
  simp [writeAll, List.mapM_append, String.join_append]

/-- Collected characters stand in front of what is written behind them. -/
theorem writeAll_group (reversed : List Char) (items : List Piece) :
    writeAll (Token.group reversed items) (writeToken request) = do
      let written ← writeAll items (writePiece request)
      return String.ofList reversed.reverse ++ written := by
  have run (reversed : List Char) (rest : List Token) :
      writeAll (Token.ofRun reversed ++ rest) (writeToken request) = do
        let written ← writeAll rest (writeToken request)
        return String.ofList reversed.reverse ++ written := by
    cases reversed with
    | nil => simp [Token.ofRun]
    | cons c earlier => simp [Token.ofRun, writeAll_cons, writeToken]
  -- The run that is collected grows with every character and is written at the next tag.
  induction items generalizing reversed with
  | nil =>
    have ended := run reversed []
    rw [List.append_nil] at ended
    exact ended
  | cons piece rest inductionHypothesis =>
    cases piece with
    | char c =>
      have longer (text : String) : String.ofList (c :: reversed).reverse ++ text =
          String.ofList reversed.reverse ++ (String.singleton c ++ text) := by
        simp [← String.toList_inj]
      rw [Token.group, inductionHypothesis, writeAll_cons]
      simp only [writePiece, pure_bind, bind_assoc, longer]
    | tag mark =>
      rw [Token.group, run, writeAll_cons, writeAll_cons, inductionHypothesis]
      simp [writePiece, writeToken]

/-- The last pass writes piece by piece. -/
theorem writeTags_pieces (source : String) :
    writeTags request source = writeAll (pieces source) (writePiece request) := by
  have tokens : writeTags request source =
      writeAll (Token.group [] (pieces source)) (writeToken request) := rfl
  rw [tokens, writeAll_group]
  simp

/-- Texts put together are written one after another. -/
theorem writeTags_append {left : String} (tidy : Tidy left) (right : String) :
    writeTags request (left ++ right) = do
      let first ← writeTags request left
      let others ← writeTags request right
      return first ++ others := by
  rw [writeTags_pieces, Text.pieces_append tidy, writeAll_append, ← writeTags_pieces,
    ← writeTags_pieces]

/-- A plain text is left as it is. -/
theorem writeTags_plain {text : String} (plain : Plain text) :
    writeTags request text = Pure.pure text := by
  have each : ∀ chars : List Char, writeAll (chars.map Piece.char) (writePiece request) =
      Pure.pure (String.ofList chars) := by
    intro chars
    induction chars with
    | nil => rfl
    | cons c rest inductionHypothesis =>
      rw [List.map_cons, writeAll_cons, inductionHypothesis]
      simp [writePiece]
  rw [writeTags_pieces, pieces, Piece.scan_plain plain, each, String.ofList_toList]

/-- A spelled tag is written as what it stands for. -/
theorem writeTags_tag {mark : Tag} (spelled : mark.Spelled) :
    writeTags request mark.source = writeTag request mark := by
  rw [writeTags_pieces, spelled]
  simp [writeAll, writePiece]

/-- So are the texts of a list. -/
theorem writeTags_join {α : Type} {items : List α} {text : α → String}
    (tidy : ∀ item ∈ items, Tidy (text item)) :
    writeTags request (String.join (items.map text)) =
      writeAll items fun item => writeTags request (text item) := by
  induction items with
  | nil => exact writeTags_plain request (by decide : Plain "")
  | cons item rest inductionHypothesis =>
    obtain ⟨here, others⟩ := List.forall_mem_cons.mp tidy
    rw [List.map_cons, String.join_cons, writeTags_append request here, writeAll_cons,
      inductionHypothesis others]

end LastPass

/-! ## Passes over sections -/

section Sections

variable (request : Request)

/-- Tokens that are left as they are stand for their text. -/
theorem writeAll_flat {write : Node → StateM Page String}
    (left : ∀ token, write (Node.ofToken token) = Pure.pure token.source) (text : String) :
    writeAll (Node.flat text) write = Pure.pure text := by
  have each : ∀ node ∈ Node.flat text, write node = Pure.pure node.source := by
    intro node member
    obtain ⟨token, -, rfl⟩ := List.mem_map.mp member
    rw [left]
    cases token <;> rfl
  rw [writeAll_sources each, Node.sources_flat]

/-- What is written for a section takes its place among tokens that are left. -/
theorem writeAll_section {write : Node → StateM Page String}
    (left : ∀ token, write (Node.ofToken token) = Pure.pure token.source)
    (front behind : String) (node : Node) :
    writeAll (Node.flat front ++ node :: Node.flat behind) write = do
      let written ← write node
      return front ++ (written ++ behind) := by
  rw [writeAll_append, writeAll_cons, writeAll_flat left, writeAll_flat left]
  simp

/-- Row loops behind tokens that are left are written behind their text. -/
theorem writeRowLoopsAll_flat (text : String) (rest : List Node) :
    writeRowLoopsAll request (Node.flat text ++ rest) =
      joinBehind (.ok text) (writeRowLoopsAll request rest) := by
  have tokens (tokens : List Token) :
      writeRowLoopsAll request (tokens.map Node.ofToken ++ rest) =
        joinBehind (.ok (Token.sources tokens)) (writeRowLoopsAll request rest) := by
    induction tokens with
    | nil =>
      have nothing : (fun written : Except Failure String =>
          (Pure.pure (written.map ("" ++ ·)) : StateM Page (Except Failure String))) =
            Pure.pure := by
        funext written
        cases written <;> simp [Except.map]
      exact ((congrArg _ nothing).trans (bind_pure _)).symm
    | cons token others inductionHypothesis =>
      have here : writeRowLoopsAll request (Node.ofToken token :: others.map Node.ofToken ++ rest) =
          joinBehind (.ok token.source)
            (writeRowLoopsAll request (others.map Node.ofToken ++ rest)) := by
        cases token <;> rfl
      rw [List.map_cons, here, inductionHypothesis, Token.sources_cons]
      simp only [joinBehind, bind_assoc, pure_bind]
      congr 1
      funext written
      cases written with
      | error failure => rfl
      | ok later => simp [Except.map, String.append_assoc]
  rw [Node.flat, tokens, Token.sources_tokenize]

/-- Tokens without row loops are left. -/
theorem writeRowLoopsAll_left (text : String) :
    writeRowLoopsAll request (Node.flat text) = Pure.pure (.ok text) := by
  have left := writeRowLoopsAll_flat request text []
  rw [List.append_nil] at left
  rw [left]
  simp [joinBehind, writeRowLoopsAll, Except.map]

/-- A text without row loops is left when they are written. -/
theorem writeRowLoops_unnamed {text : String} (unnamed : Node.Unnamed ["rowLoop"] text) :
    writeRowLoops request text = Pure.pure (.ok text) := by
  unfold writeRowLoops
  rw [Node.parse_unnamed unnamed, writeRowLoopsAll_left]

section OneSection

variable {opening closing : Tag} {front inner behind : String}

/-- A loop over fields is written where it stands. -/
theorem writeFieldsLoops_section (delimits : Node.Delimits ["fieldsLoop"] opening closing)
    (before : Node.Unnamed ["fieldsLoop"] front) (inside : Node.Unnamed ["fieldsLoop"] inner)
    (after : Node.Unnamed ["fieldsLoop"] behind) :
    writeFieldsLoops request
        (front ++ (opening.source ++ (inner ++ (closing.source ++ behind)))) = do
      let written ← writeFieldsLoop request opening.attributes (Text.trim inner)
      return front ++ (written ++ behind) := by
  unfold writeFieldsLoops
  rw [Node.parse_section delimits before inside after,
    writeAll_section fun token => by cases token <;> rfl]
  dsimp only
  rw [Node.sources_flat]

/-- A form section is written where it stands. -/
theorem writeSections_section (delimits : Node.Delimits ["form"] opening closing)
    (before : Node.Unnamed ["form"] front) (inside : Node.Unnamed ["form"] inner)
    (after : Node.Unnamed ["form"] behind) :
    writeSections request (front ++ (opening.source ++ (inner ++ (closing.source ++ behind)))) = do
      let written ← writeSection request (opening.source ++ (inner ++ closing.source))
      return front ++ (written ++ behind) := by
  unfold writeSections
  rw [Node.parse_section delimits before inside after,
    writeAll_section fun token => by cases token <;> rfl]
  dsimp only
  rw [Node.source, Node.sources_flat, String.append_assoc]

/-- A row loop is written where it stands, unless it ends the section. -/
theorem writeRowLoops_section (delimits : Node.Delimits ["rowLoop"] opening closing)
    (before : Node.Unnamed ["rowLoop"] front) (inside : Node.Unnamed ["rowLoop"] inner)
    (after : Node.Unnamed ["rowLoop"] behind) :
    writeRowLoops request (front ++ (opening.source ++ (inner ++ (closing.source ++ behind)))) = do
      let written ← writeRowLoop request (Text.trim inner)
      return written.map fun text => front ++ (text ++ behind) := by
  unfold writeRowLoops
  rw [Node.parse_section delimits before inside after, writeRowLoopsAll_flat,
    writeRowLoopsAll_section, Node.sources_flat, writeRowLoopsAll_left]
  simp only [joinBehind, bind_assoc]
  congr 1
  funext written
  cases written with
  | error failure => simp [Except.map]
  | ok text => simp [Except.map]

end OneSection

/-- A form section is left to its loops over fields if it has neither conditional sections nor,
then, row loops. -/
theorem writeSection_fieldsLoops {source : String} {page : Page}
    (settled : Node.Unnamed ["ifExpandable", "noShowExpandable"] source)
    (rows : Node.Unnamed ["rowLoop"] ((writeFieldsLoops request source).run page).1) :
    (writeSection request source).run page = (writeFieldsLoops request source).run page := by
  unfold writeSection
  rw [Node.settleExpandable_unnamed settled]
  dsimp only
  rw [run_then, writeRowLoops_unnamed request rows]
  rfl

end Sections

/-! ## Form sections without attributes -/

section Forms

variable (request : Request)

/-- The opening tag of a form section without attributes is spelled. -/
theorem form_spelled : (Tag.written "form" "").Spelled := Tag.bare_spelled (by decide)

/-- What a form starts with: its tag, unless the page has its own, and the three inputs by which
it is known. -/
def formStart (form : Form) (issued : Nat) : String :=
  (if request.options.noFormTag then "" else formTag request form .empty)
    ++ (ownInput "__formID" request.formId
      ++ ownInput "__csrfID" (request.issuer issued).id
      ++ ownInput "__csrfToken" (request.issuer issued).token)

/-- A form that is kept starts alike. -/
theorem formStart_kept {before after : Form} (kept : before.Kept after) (issued : Nat) :
    formStart request after issued = formStart request before issued := by
  rw [kept.rest]
  rfl

/-- What a form ends with. -/
def formEnd : String := if request.options.noFormTag then "" else "</form>"

/-- The opening tag of the section starts the form. -/
theorem writeTag_form (page : Page) :
    (writeTag request (Tag.written "form" "")).run page =
      (formStart request page.form (page.issued + 1), { page with issued := page.issued + 1 }) := by
  have key : (Tag.written "form" "").key = "form" := Tag.written_key (by decide) ""
  have none : (Tag.written "form" "").attributes = .empty :=
    Tag.written_attributes (fun _ none => by cases none) "form"
  have started : (writeFormStart request .empty).run page =
      (formStart request page.form (page.issued + 1) ++ "",
        { page with issued := page.issued + 1 }) := rfl
  unfold writeTag
  rw [key, none, ← String.append_empty (s := formStart request page.form (page.issued + 1))]
  exact started

/-- The closing tag ends it. -/
theorem writeTag_formEnd :
    writeTag request (Tag.ended "form") = Pure.pure (formEnd request) := by
  have key : (Tag.ended "form").key = "/form" := Tag.ended_key (by decide)
  unfold writeTag
  simp only [key, formEnd]

/-- A form section without attributes around a text. -/
def formSection (inner : String) : String :=
  (Tag.written "form" "").source ++ (inner ++ (Tag.ended "form").source)

/-- A form section has no other tags than its own and those of the text. -/
theorem formSection_unnamed {names : List String} {inner : String} (tidy : Tidy inner)
    (other : Text.folded "form" ∉ names.map Text.folded) (inside : Node.Unnamed names inner) :
    Node.Unnamed names (formSection inner) :=
  (Node.unnamed_written form_spelled other).append form_spelled.tidy
    (inside.append tidy (Node.unnamed_ended (by decide) other))

/-- The last pass writes the text between the start and the end of the form. -/
theorem writeTags_formSection {inner : String} (tidy : Tidy inner) :
    writeTags request (formSection inner) = do
      let start ← writeTag request (Tag.written "form" "")
      let written ← writeTags request inner
      return start ++ written ++ formEnd request := by
  have ended : (Tag.ended "form").Spelled := Tag.ended_spelled (by decide)
  rw [formSection, writeTags_append request form_spelled.tidy, writeTags_append request tidy,
    writeTags_tag request form_spelled, writeTags_tag request ended, writeTag_formEnd]
  simp [String.append_assoc]

/-- A page of one form section that does not ask for errors is this section, written first as a
section and then tag by tag. -/
theorem render_formSection {inner : String} (inside : Node.Unnamed ["form"] inner)
    (errors : Node.Unnamed ["ifFormErrors", "formErrors"] (formSection inner)) (page : Page) :
    (render request (formSection inner)).run page =
      (writeTags request ((writeSection request (formSection inner)).run page.start).1).run
        ((writeSection request (formSection inner)).run page.start).2 := by
  have none : Plain "" := by decide
  have whole : formSection inner = "" ++ ((Tag.written "form" "").source ++
      (inner ++ ((Tag.ended "form").source ++ ""))) := by
    rw [String.empty_append, String.append_empty, formSection]
  have one :
      writeSections request (formSection inner) = writeSection request (formSection inner) := by
    have written := writeSections_section request
      (.of_name (by decide) form_spelled) (Node.unnamed_of_plain none _) inside
      (Node.unnamed_of_plain none _)
    rw [← whole] at written
    rw [written]
    simp [formSection]
  have settled := Node.settleErrors_unnamed errors
    (page.start.diagnostics.errorsHtml (page.start.form.errorScope request.kind))
  rw [render_eq, run_then]
  unfold writeLoops
  rw [run_then, run_then, run_modify, run_get]
  dsimp only
  rw [settled, one]

end Forms

end Formwork.Page
