import Formwork.Proofs.WrittenTexts

/-!
# Templates written in one pass

A page is written in passes, each of which takes its text apart anew. A template
without the tags that the passes before the last one look for is the same text at the
end of them all, however its form sections are nested, crossed or left open: its
sections are made of tokens that follow each other in the template, and such tokens
are read afresh as what they were. What is left is one pass over the tokens of the
template, from the first to the last.
-/

namespace Formwork

/-! ## Pieces that are read again -/

namespace Piece

/-- What is read behind a tag is read as if nothing stood before it. -/
theorem scan_drop (covered : Nat) (chars : List Char) :
    scan covered chars = scan 0 (chars.drop covered) := by
  induction covered generalizing chars with
  | zero => rfl
  | succ covered inductionHypothesis =>
    cases chars with
    | nil => simp [scan]
    | cons c rest => exact inductionHypothesis rest

/-- The first pieces of characters are read alike when nothing stands behind them. -/
theorem scan_first {chars : List Char} {first others : List Piece}
    (read : scan 0 chars = first ++ others) : scan 0 (first.flatMap sourceChars) = first := by
  induction first generalizing chars with
  | nil => rfl
  | cons piece first inductionHypothesis =>
    cases chars with
    | nil => cases read
    | cons c rest =>
      rw [List.flatMap_cons]
      by_cases alone : c ≠ '\x7b' ∨ Tag.at? rest = none
      · rw [scan_char alone] at read
        obtain ⟨rfl, later⟩ := List.cons.inj read
        have later : scan 0 rest = first ++ others := later
        have whole : rest = first.flatMap sourceChars ++ others.flatMap sourceChars := by
          have sources := sources_scan 0 rest
          rw [later, List.flatMap_append] at sources
          exact sources.symm
        have still : c ≠ '\x7b' ∨ Tag.at? (first.flatMap sourceChars) = none := by
          refine alone.imp_right fun none => ?_
          rw [Option.eq_none_iff_forall_ne_some]
          rintro ⟨mark, length⟩ found
          rw [whole, Tag.at?_append found] at none
          cases none
        rw [sourceChars, List.singleton_append, scan_char still, inductionHypothesis later]
      · obtain ⟨same, some⟩ := not_or.mp alone
        obtain rfl := Decidable.not_not.mp same
        obtain ⟨⟨mark, length⟩, found⟩ := Option.ne_none_iff_exists'.mp some
        rw [scan_open found] at read
        obtain ⟨rfl, later⟩ := List.cons.inj read
        obtain ⟨body, behind, rfl, plain, made, rfl⟩ := Tag.at?_eq_some_iff.mp found
        have again : Tag.at? (body ++ '\x7d' :: first.flatMap sourceChars) =
            Option.some (mark, body.length + 1) :=
          Tag.at?_eq_some_iff.mpr ⟨body, _, rfl, plain, made, rfl⟩
        have source : (Piece.tag mark).sourceChars ++ first.flatMap sourceChars =
            '\x7b' :: (body ++ '\x7d' :: first.flatMap sourceChars) := by
          rw [sourceChars, Tag.source_of_body made]
          simp
        rw [scan_drop] at later
        rw [source, scan_open again, scan_drop, List.append_cons, List.drop_left' (by simp),
          inductionHypothesis later]

/-- The last pieces of characters are read alike when nothing stands before them. -/
theorem scan_last {chars : List Char} {first others : List Piece}
    (read : scan 0 chars = first ++ others) : scan 0 (others.flatMap sourceChars) = others := by
  induction first generalizing chars with
  | nil =>
    have sources := sources_scan 0 chars
    rw [read, List.nil_append] at sources
    rw [sources]
    exact read
  | cons piece first inductionHypothesis =>
    cases chars with
    | nil => cases read
    | cons c rest =>
      by_cases alone : c ≠ '\x7b' ∨ Tag.at? rest = none
      · rw [scan_char alone] at read
        exact inductionHypothesis (List.cons.inj read).2
      · obtain ⟨same, some⟩ := not_or.mp alone
        obtain rfl := Decidable.not_not.mp same
        obtain ⟨⟨mark, length⟩, found⟩ := Option.ne_none_iff_exists'.mp some
        rw [scan_open found, scan_drop] at read
        exact inductionHypothesis (List.cons.inj read).2

/-- Pieces that follow each other are read alike when they stand by themselves. -/
theorem scan_infix {chars : List Char} {run : List Piece} (among : run <:+: scan 0 chars) :
    scan 0 (run.flatMap sourceChars) = run := by
  obtain ⟨front, behind, whole⟩ := among
  rw [List.append_assoc] at whole
  exact scan_first (scan_last whole.symm)

end Piece

namespace Token

/-- The pieces that the token was made of. -/
def pieces : Token → List Piece
  | .text content => content.toList.map .char
  | .tag mark => [.tag mark]

/-- The tokens of collected characters and pieces were made of these. -/
theorem pieces_group (reversed : List Char) (items : List Piece) :
    (group reversed items).flatMap pieces = reversed.reverse.map .char ++ items := by
  have run (reversed : List Char) :
      (ofRun reversed).flatMap pieces = reversed.reverse.map .char := by
    cases reversed with
    | nil => rfl
    | cons last earlier => simp [ofRun, pieces]
  induction items generalizing reversed with
  | nil => rw [group, run, List.append_nil]
  | cons piece rest inductionHypothesis =>
    cases piece with
    | char c =>
      rw [group, inductionHypothesis]
      simp
    | tag mark =>
      rw [group, List.flatMap_append, List.flatMap_cons, inductionHypothesis, run]
      simp [pieces]

/-- The text of tokens is that of their pieces. -/
theorem sources_pieces (tokens : List Token) :
    (sources tokens).toList = (tokens.flatMap pieces).flatMap Piece.sourceChars := by
  induction tokens with
  | nil => rfl
  | cons token rest inductionHypothesis =>
    rw [sources_cons, String.toList_append, inductionHypothesis, List.flatMap_cons,
      List.flatMap_append]
    congr 1
    cases token with
    | text content => simp [source, pieces, List.flatMap_map, Piece.sourceChars]
    | tag mark => simp [source, pieces, Piece.sourceChars]

/-- Tokens that follow each other in a text are read afresh as what they were. -/
theorem pieces_infix {text : String} {run : List Token} (among : run <:+: tokenize text) :
    Text.pieces (sources run) = run.flatMap pieces := by
  obtain ⟨front, behind, whole⟩ := among
  have read : run.flatMap pieces <:+: Piece.scan 0 text.toList := by
    refine ⟨front.flatMap pieces, behind.flatMap pieces, ?_⟩
    rw [← List.flatMap_append, ← List.flatMap_append, whole, tokenize, pieces_group]
    rfl
  rw [Text.pieces, sources_pieces]
  exact Piece.scan_infix read

/-- Their text holds no tags but theirs. -/
theorem marks_infix {text : String} {run : List Token} (among : run <:+: tokenize text) :
    Text.marks (sources run) = run.filterMap mark? := by
  rw [Text.marks, pieces_infix among]
  clear among
  induction run with
  | nil => rfl
  | cons token rest inductionHypothesis =>
    rw [List.flatMap_cons, List.filterMap_append, inductionHypothesis]
    cases token with
    | text content =>
      rw [pieces, Text.mark?_chars]
      rfl
    | tag mark => rfl

end Token

/-- The parts of a text have no tags of names that the text has none of, whatever sections it
is taken apart into. -/
theorem Node.unnamed_of_mem_parse {names paired : List String} {text : String} {node : Node}
    (unnamed : Unnamed names text) (member : node ∈ parse paired text) :
    Unnamed names node.source := by
  have among : node.tokens <:+: Token.tokenize text := by
    rw [← tokensAll_parse paired]
    exact tokens_infix member
  rw [Unnamed, source_eq, Token.marks_infix among]
  intro mark there
  apply unnamed
  rw [← Token.marks_tokenize]
  exact (among.sublist.filterMap Token.mark?).subset there

namespace Page

/-! ## Passes that leave a text -/

/-- The names of the tags that the passes before the last one look for, besides the form's. -/
def earlierNames : List String :=
  ["ifFormErrors", "formErrors", "ifExpandable", "noShowExpandable", "fieldsLoop", "rowLoop"]

section Left

variable (request : Request) {text : String} (unnamed : Node.Unnamed earlierNames text)

include unnamed

/-- A form section without these tags is left. -/
theorem writeSection_unnamed : writeSection request text = Pure.pure text := by
  have loops : writeFieldsLoops request text = Pure.pure text := by
    unfold writeFieldsLoops
    rw [Node.parse_unnamed (unnamed.mono (by simp [earlierNames]))]
    exact writeAll_flat (fun token => by cases token <;> rfl) text
  unfold writeSection
  rw [Node.settleExpandable_unnamed (unnamed.mono (by simp [earlierNames]))]
  dsimp only
  rw [loops, pure_bind, writeRowLoops_unnamed request (unnamed.mono (by simp [earlierNames])),
    pure_bind]

/-- So is a text around form sections without them. -/
theorem writeSections_unnamed : writeSections request text = Pure.pure text := by
  unfold writeSections
  rw [writeAll_sources, Node.sources_parse]
  intro node member
  cases node with
  | text content => rfl
  | tag mark => rfl
  | «section» opening children closing =>
    exact writeSection_unnamed request (Node.unnamed_of_mem_parse unnamed member)

/-- Only the last pass is left to write a page whose template has none of these tags. -/
theorem render_unnamed (page : Page) :
    (render request text).run page = (writeTags request text).run page.start := by
  rw [render_eq, run_then]
  unfold writeLoops
  rw [run_then, run_then, run_modify, run_get]
  dsimp only
  rw [Node.settleErrors_unnamed (unnamed.mono (by simp [earlierNames])),
    writeSections_unnamed request unnamed]
  rfl

end Left

/-! ## One pass -/

/-- The keys of the single tags. -/
def ownKeys : List String :=
  ["formtitle", "form", "/form", "fields", "field", "fieldset", "/fieldset", "rowcount",
    "fieldcount"]

/-- What stands in a page for itself: text, and a tag that none of its passes knows. -/
inductive Stays : Token → Prop where
  /-- Text between tags. -/
  | text (content : String) : Stays (.text content)
  /-- A tag whose key is that of no single tag. -/
  | tag {mark : Tag} (other : mark.key ∉ ownKeys) : Stays (.tag mark)

/-- The page writes a text for tokens in their order. What stays is written as it is; every other
tag is written on the page that the tags before it left. -/
inductive Written (request : Request) : List Token → Page → String → Page → Prop where
  /-- No tokens are left. -/
  | nothing (page : Page) : Written request [] page "" page
  /-- A token is written as it stands. -/
  | left {token : Token} {rest : List Token} {page after : Page} {html : String}
      (stays : Stays token) (behind : Written request rest page html after) :
      Written request (token :: rest) page (token.source ++ html) after
  /-- A tag is written as what it stands for. -/
  | tag {mark : Tag} {rest : List Token} {page next after : Page} {here html : String}
      (own : mark.key ∈ ownKeys) (written : (writeTag request mark).run page = (here, next))
      (behind : Written request rest next html after) :
      Written request (.tag mark :: rest) page (here ++ html) after

section OnePass

variable {request : Request}

/-- A token that stays is written as it stands. -/
theorem Stays.writeToken {token : Token} (stays : Stays token) :
    Page.writeToken request token = Pure.pure token.source := by
  cases stays with
  | text content => rfl
  | @tag mark other =>
    simp only [ownKeys, List.mem_cons, List.not_mem_nil, or_false, not_or] at other
    unfold Page.writeToken writeTag
    dsimp only
    split <;> simp_all [Token.source]

/-- Every token stays or is a single tag. -/
theorem stays_or_own (token : Token) :
    Stays token ∨ ∃ mark, token = .tag mark ∧ mark.key ∈ ownKeys := by
  cases token with
  | text content => exact .inl (.text content)
  | tag mark =>
    by_cases own : mark.key ∈ ownKeys
    · exact .inr ⟨mark, rfl, own⟩
    · exact .inl (.tag own)

/-- The text of one token stands before what is written behind it. -/
theorem writeAll_run_cons {token : Token} {rest : List Token} {page next after : Page}
    {here html : String} (first : (Page.writeToken request token).run page = (here, next))
    (behind : (writeAll rest (Page.writeToken request)).run next = (html, after)) :
    (writeAll (token :: rest) (Page.writeToken request)).run page = (here ++ html, after) := by
  rw [writeAll_cons, run_then, first]
  dsimp only
  rw [run_then, behind]
  rfl

/-- The last pass writes tokens in their order, and nothing else is written for them. -/
theorem written_iff {tokens : List Token} {page after : Page} {html : String} :
    Written request tokens page html after ↔
      (writeAll tokens (Page.writeToken request)).run page = (html, after) := by
  constructor
  · intro written
    induction written with
    | nothing page => rfl
    | left stays behind inductionHypothesis =>
      exact writeAll_run_cons (by rw [stays.writeToken]; rfl) inductionHypothesis
    | tag own written behind inductionHypothesis =>
      exact writeAll_run_cons written inductionHypothesis
  · intro whole
    induction tokens generalizing page html with
    | nil =>
      obtain ⟨rfl, rfl⟩ := Prod.mk.inj whole
      exact .nothing page
    | cons token rest inductionHypothesis =>
      rcases first : (Page.writeToken request token).run page with ⟨here, next⟩
      rcases behind : (writeAll rest (Page.writeToken request)).run next with ⟨text, last⟩
      rw [writeAll_run_cons first behind] at whole
      obtain ⟨rfl, rfl⟩ := Prod.mk.inj whole
      rcases stays_or_own token with stays | ⟨mark, rfl, own⟩
      · rw [stays.writeToken] at first
        obtain ⟨rfl, rfl⟩ := Prod.mk.inj first
        exact .left stays (inductionHypothesis behind)
      · exact .tag own first (inductionHypothesis behind)

/-- What stays among tokens divides what is written for the tokens before it from what is
written for those behind it. -/
theorem Written.divide {front behind : List Token} {token : Token} (stays : Stays token)
    {page after : Page} {html : String}
    (written : Written request (front ++ token :: behind) page html after) :
    ∃ before middle others, Written request front page before middle ∧
      Written request behind middle others after ∧ html = before ++ (token.source ++ others) := by
  rw [written_iff, writeAll_append, run_then, writeAll_cons, stays.writeToken, pure_bind,
    run_then, run_then] at written
  obtain ⟨rfl, rfl⟩ := Prod.mk.inj written
  exact ⟨_, _, _, written_iff.mpr rfl, written_iff.mpr rfl, rfl⟩

end OnePass

/-- A template without the tags that the passes before the last one look for is written in one
pass. The page is put together from its tokens in their order: text and tags that no pass knows as
they stand, and every other tag as what it stands for on the page that the tags before it left.
So loose braces, tags of unbalanced sections and tags for another reader are found where the
template has them, between what is written before and behind them.

Proof: an earlier pass takes a text apart into nodes that are put together again. A form section
among them is made of tokens that follow each other in the template and is settled on its own, so
it is enough that such tokens are read afresh as what they were. -/
theorem render_in_one_pass (request : Request) {template : String}
    (unnamed : Node.Unnamed earlierNames template) (page : Page) :
    ∃ html after, (render request template).run page = (html, after) ∧
      Written request (Token.tokenize template) page.start html after ∧
      ∀ front token behind, Token.tokenize template = front ++ token :: behind → Stays token →
        ∃ before middle others, Written request front page.start before middle ∧
          Written request behind middle others after ∧
          html = before ++ (token.source ++ others) := by
  rcases whole : (writeTags request template).run page.start with ⟨html, after⟩
  have written : Written request (Token.tokenize template) page.start html after :=
    written_iff.mpr whole
  refine ⟨html, after, ?_, written, ?_⟩
  · rw [render_unnamed request unnamed, whole]
  · intro front token behind divided stays
    rw [divided] at written
    exact written.divide stays

/-- Loose braces, a form section in one that stays open, tags for another reader, and a field that
is asked for twice. -/
def looseTemplate : String :=
  "\x7b a\x7d\x7b/form\x7d\x7bForm\x7d\x7bouter x='1'\x7d\x7bform\x7d\x7bfield name='note'\x7d\x7b/FORM\x7d"
    ++ "\x7b/fields\x7d\x7bfield name='note'\x7d\x7b/outer\x7d \x7b"

/-- What is written for it: both forms start, the field stands once, and the rest is left. -/
def looseHtml : String :=
  "\x7b a\x7d</form><form method=\"post\">" ++ ownInput "__formID" "form1"
    ++ ownInput "__csrfID" "c1" ++ ownInput "__csrfToken" "t"
    ++ "\x7bouter x='1'\x7d<form method=\"post\">" ++ ownInput "__formID" "form1"
    ++ ownInput "__csrfID" "c2" ++ ownInput "__csrfToken" "t"
    ++ "<div class=\"formField textField\"><label for=\"note\">note</label>"
    ++ "<input type=\"text\" name=\"note\" id=\"note\" value=\"\" /></div></form>"
    ++ "\x7b/fields\x7d\x7b/outer\x7d \x7b"

/-- One pass over its tokens writes the same. -/
theorem loose_in_one_pass :
    Node.Unnamed earlierNames looseTemplate ∧
      ((render noteRequest looseTemplate).run { form := noteForm }).1 = looseHtml ∧
      ∃ after, Written noteRequest (Token.tokenize looseTemplate) (start { form := noteForm })
        looseHtml after := by
  have unnamed : Node.Unnamed earlierNames looseTemplate := by
    unfold Node.Unnamed
    decide +kernel
  have text : ((render noteRequest looseTemplate).run { form := noteForm }).1 = looseHtml := by
    rw [render_unnamed noteRequest unnamed]
    decide +kernel
  obtain ⟨html, after, whole, written, -⟩ :=
    render_in_one_pass noteRequest unnamed { form := noteForm }
  have same : html = looseHtml := by
    rw [← text, whole]
  rw [same] at written
  exact ⟨unnamed, text, after, written⟩

end Page

end Formwork
