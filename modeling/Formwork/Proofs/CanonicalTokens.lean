import Formwork.Proofs.NothingLost
import Mathlib.Data.List.Chain

/-!
# Tokens in canonical form

A text can be cut into texts and tags in many ways. The tokens of a template are
cut as coarsely as they can be: no text among them is empty, and no two texts
follow each other, so that two tokens are divided only by a tag. A brace that
begins no tag and a closing tag with attributes are therefore never tokens of
their own. Put together in order the tokens are the template, and the tree of its
sections still is.
-/

namespace Formwork

namespace Token

/-- The token is text between tags. -/
def isText : Token → Bool
  | .text _ => true
  | .tag _ => false

/-- Tokens that stand for a text and are cut as coarsely as they can be. -/
structure Canonical (template : String) (tokens : List Token) : Prop where
  /-- Put together they are the text. -/
  whole : sources tokens = template
  /-- No text is empty. -/
  filled : ∀ content, .text content ∈ tokens → content ≠ ""
  /-- No two texts follow each other. -/
  apart : tokens.IsChain fun first second => ¬ (first.isText = true ∧ second.isText = true)

/-- Collected characters become no token, or one text that is not empty. -/
theorem ofRun_cases (reversed : List Char) :
    ofRun reversed = [] ∨ ∃ content, content ≠ "" ∧ ofRun reversed = [.text content] := by
  cases reversed with
  | nil => exact .inl rfl
  | cons last earlier =>
    refine .inr ⟨String.ofList (last :: earlier).reverse, ?_, rfl⟩
    intro empty
    have chars := congrArg String.toList empty
    rw [String.toList_ofList] at chars
    simp at chars

/-- Whatever was collected before, grouping gives no empty text. -/
theorem filled_group (reversed : List Char) (pieces : List Piece) :
    ∀ content, .text content ∈ group reversed pieces → content ≠ "" := by
  have run (reversed : List Char) : ∀ content, .text content ∈ ofRun reversed → content ≠ "" := by
    intro content member
    rcases ofRun_cases reversed with none | ⟨collected, filled, one⟩
    · rw [none] at member
      cases member
    · rw [one, List.mem_singleton] at member
      obtain rfl := Token.text.inj member
      exact filled
  induction pieces generalizing reversed with
  | nil => exact run reversed
  | cons piece rest inductionHypothesis =>
    cases piece with
    | char c => exact inductionHypothesis (c :: reversed)
    | tag mark =>
      intro content member
      rcases List.mem_append.mp member with collected | later
      · exact run reversed content collected
      · apply inductionHypothesis []
        simpa using later

/-- Grouping gives no two texts in a row: a text ends only where a tag begins. -/
theorem apart_group (reversed : List Char) (pieces : List Piece) :
    (group reversed pieces).IsChain fun first second =>
      ¬ (first.isText = true ∧ second.isText = true) := by
  induction pieces generalizing reversed with
  | nil =>
    rcases ofRun_cases reversed with none | ⟨content, -, one⟩
    · rw [group, none]
      exact .nil
    · rw [group, one]
      exact .singleton _
  | cons piece rest inductionHypothesis =>
    cases piece with
    | char c => exact inductionHypothesis (c :: reversed)
    | tag mark =>
      have behind : (Token.tag mark :: group [] rest).IsChain fun first second =>
          ¬ (first.isText = true ∧ second.isText = true) := by
        rw [List.isChain_cons]
        constructor
        · intro next _
          simp [isText]
        · exact inductionHypothesis []
      rcases ofRun_cases reversed with none | ⟨content, -, one⟩
      · rw [group, none]
        exact behind
      · rw [group, one, List.singleton_append, List.isChain_cons_cons]
        constructor
        · simp [isText]
        · exact behind

/-- The tokens of a template are in canonical form. -/
theorem canonical_tokenize (template : String) : Canonical template (tokenize template) where
  whole := sources_tokenize template
  filled := filled_group [] (Text.pieces template)
  apart := apart_group [] (Text.pieces template)

end Token

/-- Reading a template loses nothing. Whatever the template says and whichever
sections are asked for, the tree of its sections stands for the template itself,
however tags are left open, crossed or stray, and the tokens that the tree is made
of are in canonical form.

Proof: the text of the forest that is read so far grows by one token at a time, and
what is left open falls apart into the tags it was made of. -/
theorem Node.template_read_without_loss (names : List String) (template : String) :
    Node.sources (Node.parse names template) = template ∧
      Token.Canonical template (Token.tokenize template) := by
  constructor
  · exact Node.sources_parse names template
  · exact Token.canonical_tokenize template

/-- A stray closing tag, a closing tag with attributes and a loose brace. -/
example :
    Token.tokenize "a\x7b/form x\x7d\x7b b\x7bfield\x7d\x7b/form\x7d" =
      [.text "a\x7b/form x\x7d\x7b b", .tag ⟨"field", false, "", "\x7bfield\x7d"⟩,
        .tag ⟨"form", true, "", "\x7b/form\x7d"⟩] := by
  decide +kernel

end Formwork
