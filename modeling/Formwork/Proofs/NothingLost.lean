import Formwork.Proofs.TagSequence
import Formwork.Template.Tree

/-!
# Nothing of a template is lost

The tokens of a text, put together, are the text, and so are the nodes of its
sections, whatever names are asked for and however tags are nested. The invariant
of reading is that the forest, open sections included, is made of the tokens read so
far, in order.
-/

namespace Formwork

/-! ## Tokens -/

/-- The characters that a piece stands for. -/
def Piece.sourceChars : Piece → List Char
  | .char c => [c]
  | .tag mark => mark.source.toList

/-- A tag stands for its body between braces. -/
theorem Tag.source_of_body {body : List Char} {mark : Tag} (made : ofBody? body = some mark) :
    mark.source.toList = '\x7b' :: (body ++ ['\x7d']) := by
  unfold ofBody? at made
  dsimp only at made
  generalize (if (body.head? == some '/') = true then body.tail else body) = inner at made
  split at made
  · obtain rfl := Option.some.inj made
    simp
  · cases made

/-- A tag stands for the characters that it is read from. -/
theorem Tag.source_of_at? {chars : List Char} {mark : Tag} {length : Nat}
    (found : at? chars = some (mark, length)) :
    mark.source.toList = '\x7b' :: chars.take length := by
  obtain ⟨body, rest, rfl, -, made, rfl⟩ := at?_eq_some_iff.mp found
  rw [source_of_body made, List.take_append, List.take_of_length_le (Nat.le_succ body.length)]
  simp

/-- The pieces of characters stand for all that is not read already. -/
theorem Piece.sources_scan (covered : Nat) (chars : List Char) :
    (scan covered chars).flatMap sourceChars = chars.drop covered := by
  induction chars generalizing covered with
  | nil => simp [scan]
  | cons c rest inductionHypothesis =>
    cases covered with
    | succ covered => exact inductionHypothesis covered
    | zero =>
      by_cases alone : c ≠ '\x7b' ∨ Tag.at? rest = none
      · rw [scan_char alone, List.flatMap_cons, inductionHypothesis]
        rfl
      · obtain ⟨same, some⟩ := not_or.mp alone
        obtain rfl := Decidable.not_not.mp same
        obtain ⟨⟨mark, length⟩, found⟩ := Option.ne_none_iff_exists'.mp some
        have source : (Piece.tag mark).sourceChars = '\x7b' :: rest.take length :=
          Tag.source_of_at? found
        rw [scan_open found, List.flatMap_cons, inductionHypothesis, source, List.cons_append,
          List.take_append_drop]
        rfl

namespace Token

/-- The text of tokens begins with that of the first one. -/
theorem sources_cons (token : Token) (rest : List Token) :
    sources (token :: rest) = token.source ++ sources rest := String.join_cons

/-- Tokens put together stand for the texts of both. -/
theorem sources_append (left right : List Token) :
    sources (left ++ right) = sources left ++ sources right := by
  induction left with
  | nil => exact String.empty_append.symm
  | cons token rest inductionHypothesis =>
    rw [List.cons_append, sources_cons, sources_cons, inductionHypothesis, String.append_assoc]

/-- Grouping pieces loses no character. -/
theorem sources_group (reversed : List Char) (pieces : List Piece) :
    (sources (group reversed pieces)).toList =
      reversed.reverse ++ pieces.flatMap Piece.sourceChars := by
  have run (reversed : List Char) : (sources (ofRun reversed)).toList = reversed.reverse := by
    unfold ofRun
    cases reversed with
    | nil => rfl
    | cons first rest =>
      rw [if_neg (by simp), sources_cons, String.toList_append]
      simp [source, sources]
  induction pieces generalizing reversed with
  | nil => simp [group, run]
  | cons piece rest inductionHypothesis =>
    cases piece with
    | char c =>
      rw [group, inductionHypothesis]
      simp [Piece.sourceChars]
    | tag mark =>
      rw [group, sources_append, sources_cons, String.toList_append, String.toList_append,
        inductionHypothesis, run]
      rfl

/-- The tokens of a text stand for the text. -/
theorem sources_tokenize (text : String) : sources (tokenize text) = text := by
  apply String.toList_inj.mp
  rw [tokenize, sources_group, Piece.sources_scan]
  rfl

end Token

/-! ## Sections -/

namespace Node

mutual

/-- The tokens that the node was made of. -/
def tokens : Node → List Token
  | .text content => [.text content]
  | .tag mark => [.tag mark]
  | .section opening children closing =>
    .tag opening :: (tokensAll children ++ [.tag closing])

/-- The tokens that a node list was made of. -/
def tokensAll : List Node → List Token
  | [] => []
  | node :: rest => node.tokens ++ tokensAll rest

end

mutual

/-- A node stands for the text of its tokens. -/
theorem source_eq : ∀ node : Node, node.source = Token.sources node.tokens
  | .text content => by simp [source, tokens, Token.sources, Token.source]
  | .tag mark => by simp [source, tokens, Token.sources, Token.source]
  | .section opening children closing => by
    have inside := sources_eq children
    rw [source, tokens, Token.sources_cons, Token.sources_append, inside, String.append_assoc]
    simp [Token.sources, Token.source]

/-- So do nodes. -/
theorem sources_eq : ∀ nodes : List Node, sources nodes = Token.sources (tokensAll nodes)
  | [] => rfl
  | node :: rest => by
    rw [sources, tokensAll, Token.sources_append, source_eq node, sources_eq rest]

end

/-- Nodes put together were made of the tokens of both. -/
theorem tokensAll_append (left right : List Node) :
    tokensAll (left ++ right) = tokensAll left ++ tokensAll right := by
  induction left with
  | nil => rfl
  | cons node rest inductionHypothesis =>
    rw [List.cons_append, tokensAll, tokensAll, inductionHypothesis, List.append_assoc]

/-- The tokens of a node stand one after another among those of all nodes. -/
theorem tokens_infix {node : Node} {nodes : List Node} (member : node ∈ nodes) :
    node.tokens <:+: tokensAll nodes := by
  obtain ⟨front, behind, rfl⟩ := List.append_of_mem member
  refine ⟨tokensAll front, tokensAll behind, ?_⟩
  rw [tokensAll_append, tokensAll, List.append_assoc]

/-- The tokens of open sections, innermost first. -/
def Frame.tokens : List Frame → List Token
  | [] => []
  | frame :: outer => Frame.tokens outer ++ .tag frame.opening :: tokensAll frame.children

namespace Forest

/-- The tokens that were read. -/
def tokens (forest : Forest) : List Token :=
  tokensAll forest.roots ++ Frame.tokens forest.pending

/-- Nodes are added at the end. -/
theorem tokens_attach (nodes : List Node) (forest : Forest) :
    (forest.attach nodes).tokens = forest.tokens ++ tokensAll nodes := by
  obtain ⟨pending, roots⟩ := forest
  cases pending with
  | nil => simp [attach, tokens, Frame.tokens, tokensAll_append]
  | cons frame outer => simp [attach, tokens, Frame.tokens, tokensAll_append]

/-- A section that was never closed was made of its tag and what was read behind it. -/
theorem tokensAll_loosen (frame : Frame) (inner : List Node) :
    tokensAll (loosen frame inner) =
      .tag frame.opening :: (tokensAll frame.children ++ tokensAll inner) := by
  rw [loosen, List.cons_append, tokensAll, tokensAll_append]
  rfl

/-- A closing tag is added at the end, whatever section it ends. -/
theorem tokens_close (closing : Tag) (roots inner : List Node) (frames : List Frame) :
    (close closing roots inner frames).tokens =
      tokensAll roots ++ Frame.tokens frames ++ tokensAll inner ++ [.tag closing] := by
  induction frames generalizing inner with
  | nil => simp [close, tokens, Frame.tokens, tokensAll_append, tokensAll, Node.tokens]
  | cons frame outer inductionHypothesis =>
    unfold close
    split
    · rw [tokens_attach]
      simp [tokens, Frame.tokens, tokensAll_append, tokensAll, Node.tokens]
    · rw [inductionHypothesis, tokensAll_loosen]
      simp [Frame.tokens]

/-- A tag that is not of the names is attached. One that is opens a section, or ends an open section
of its name, or is attached because there is none. -/
theorem read_tag_cases (names : List String) (forest : Forest) (mark : Tag) :
    (names.any mark.isNamed = false ∧
        forest.read names (.tag mark) = forest.attach [.tag mark]) ∨
      (names.any mark.isNamed = true ∧ mark.closing = false ∧
        forest.read names (.tag mark) = { forest with pending := ⟨mark, []⟩ :: forest.pending }) ∨
      (names.any mark.isNamed = true ∧ mark.closing = true ∧
        forest.pending.any (fun frame => frame.opening.isNamed mark.name) = true ∧
        forest.read names (.tag mark) = close mark forest.roots [] forest.pending) ∨
      names.any mark.isNamed = true ∧ mark.closing = true ∧
        forest.pending.any (fun frame => frame.opening.isNamed mark.name) = false ∧
        forest.read names (.tag mark) = forest.attach [.tag mark] := by
  unfold read
  dsimp only
  cases names.any mark.isNamed <;> cases mark.closing <;>
    cases forest.pending.any fun frame => frame.opening.isNamed mark.name <;> simp

/-- A token is added at the end. -/
theorem tokens_read (names : List String) (forest : Forest) (token : Token) :
    (forest.read names token).tokens = forest.tokens ++ [token] := by
  have attached (node : Node) (single : node.tokens = [token]) :
      (forest.attach [node]).tokens = forest.tokens ++ [token] := by
    rw [tokens_attach]
    simp [tokensAll, single]
  cases token with
  | text content => exact attached (.text content) rfl
  | tag mark =>
    rcases read_tag_cases names forest mark with ⟨-, reads⟩ | ⟨-, -, reads⟩ | ⟨-, -, -, reads⟩ |
      ⟨-, -, -, reads⟩
    · rw [reads]
      exact attached (.tag mark) rfl
    · rw [reads]
      simp [tokens, Frame.tokens, tokensAll]
    · rw [reads, tokens_close]
      simp [tokens, tokensAll]
    · rw [reads]
      exact attached (.tag mark) rfl

/-- Tokens are added at the end, one after another. -/
theorem tokens_reads (names : List String) (tokens : List Token) (forest : Forest) :
    (tokens.foldl (Forest.read names) forest).tokens = forest.tokens ++ tokens := by
  induction tokens generalizing forest with
  | nil => exact (List.append_nil _).symm
  | cons token rest inductionHypothesis =>
    rw [List.foldl_cons, inductionHypothesis, tokens_read, List.append_assoc,
      List.singleton_append]

/-- What is left open is still there at the end. -/
theorem tokensAll_finish (forest : Forest) : tokensAll forest.finish = forest.tokens := by
  have loosened (frames : List Frame) (inner : List Node) :
      tokensAll (frames.foldl (fun inner frame => loosen frame inner) inner) =
        Frame.tokens frames ++ tokensAll inner := by
    induction frames generalizing inner with
    | nil => rfl
    | cons frame outer inductionHypothesis =>
      rw [List.foldl_cons, inductionHypothesis, tokensAll_loosen]
      simp [Frame.tokens]
  rw [finish, tokens, tokensAll_append, loosened, tokensAll, List.append_nil]

end Forest

/-- The nodes of tokens are made of these, in order, whatever sections are asked for. -/
theorem tokensAll_ofTokens (names : List String) (tokens : List Token) :
    tokensAll (ofTokens names tokens) = tokens := by
  rw [ofTokens, Forest.tokensAll_finish, Forest.tokens_reads]
  rfl

/-- So are the nodes of a text. -/
theorem tokensAll_parse (names : List String) (text : String) :
    tokensAll (parse names text) = Token.tokenize text := tokensAll_ofTokens names _

/-- So they stand for the text. -/
theorem sources_parse (names : List String) (text : String) :
    sources (parse names text) = text := by
  rw [sources_eq, tokensAll_parse, Token.sources_tokenize]

end Node

end Formwork
