import Formwork.Proofs.SpelledTexts

/-!
# The grammar of tags

A tag is a text of its own grammar, and the tokens of a template are what this
grammar says. A tag is read as itself wherever it stands: whatever text is put in
front of it or behind it, loose braces and parts of other tags included, is read as
if it stood alone. And only tags are read as tags, so a text that has none in it is
one text token.
-/

namespace Formwork

open Text (isBlank)

/-- What is trimmed away entirely is blank. -/
theorem Text.blank_of_trimChars {chars : List Char} (nothing : trimChars chars = []) :
    ∀ c ∈ chars, isBlank c = true := by
  obtain ⟨blanks, whole, blank⟩ := dropBlankRight_append (chars.dropWhile isBlank)
  rw [← trimChars, nothing, List.nil_append] at whole
  intro c member
  rw [← List.takeWhile_append_dropWhile (p := isBlank) (l := chars), whole] at member
  rcases List.mem_append.mp member with leading | trailing
  · exact List.all_eq_true.mp List.all_takeWhile c leading
  · exact blank c trailing

namespace Tag

/-- The grammar of tags: the text of a tag with its name, whether it closes a section, and its
attributes. -/
inductive Grammar : (text name : String) → (closing : Bool) → (attributeText : String) → Prop where
  /-- A name between braces, alone or with something behind it that begins with a blank and holds no
  brace. -/
  | opening {name given : String} (named : isName name = true)
      (apart : given.toList.head?.all isBlank = true) (plain : Text.Plain given) :
      Grammar ("\x7b" ++ name ++ given ++ "\x7d") name false (Text.trim given)
  /-- A name behind a slash between braces, alone or with blanks behind it. -/
  | closing {name blanks : String} (named : isName name = true)
      (blank : ∀ c ∈ blanks.toList, isBlank c = true) :
      Grammar ("\x7b/" ++ name ++ blanks ++ "\x7d") name true ""

/-- A text of the grammar is spelled as its tag. -/
theorem Grammar.spelled {text name : String} {closing : Bool} {attributeText : String}
    (tagged : Grammar text name closing attributeText) :
    Spelled ⟨name, closing, attributeText, text⟩ := by
  cases tagged with
  | opening named apart plain => exact written_spelled named apart plain
  | closing named blank => exact endedWith_spelled named blank

/-- The characters of a name, as far as they can be read, are a name if the first one can begin
one. -/
theorem isName_takeWhile {chars : List Char}
    (starts : (chars.takeWhile continuesName).head?.any startsName = true) :
    isName (String.ofList (chars.takeWhile continuesName)) = true := by
  unfold isName
  rw [String.toList_ofList]
  cases read : chars.takeWhile continuesName with
  | nil =>
    rw [read] at starts
    cases starts
  | cons first rest =>
    rw [read] at starts
    refine Bool.and_eq_true_iff.mpr ⟨starts, List.all_eq_true.mpr fun c member => ?_⟩
    have there : c ∈ chars.takeWhile continuesName := by
      rw [read]
      exact List.mem_cons_of_mem _ member
    exact List.all_eq_true.mp List.all_takeWhile c there

/-- A tag body stands between the braces of a text of the grammar. -/
theorem grammar_of_body {body : List Char} {mark : Tag} (plain : ∀ c ∈ body, isPlain c = true)
    (made : ofBody? body = some mark) :
    Grammar (String.ofList ('\x7b' :: body ++ ['\x7d'])) mark.name mark.closing
      mark.attributeText := by
  unfold ofBody? at made
  dsimp only at made
  -- The characters behind the slash, if there is one, are a name and what stands behind it.
  have split (inner : List Char) : inner = inner.takeWhile continuesName ++
      inner.dropWhile continuesName := List.takeWhile_append_dropWhile.symm
  by_cases slash : body.head? = some '/'
  · obtain ⟨inner, rfl⟩ := List.head?_eq_some_iff.mp slash
    rw [List.head?_cons, beq_self_eq_true, if_pos rfl, List.tail_cons] at made
    split at made
    · rename_i accepted
      obtain rfl := Option.some.inj made
      simp only [Bool.and_eq_true, Bool.not_eq_true', Bool.true_and, decide_eq_false_iff_not,
        ne_eq, Decidable.not_not] at accepted
      obtain ⟨⟨starts, -⟩, nothing⟩ := accepted
      have blank : ∀ c ∈ (String.ofList (inner.dropWhile continuesName)).toList,
          isBlank c = true := by
        rw [String.toList_ofList]
        exact Text.blank_of_trimChars nothing
      have source : String.ofList ('\x7b' :: '/' :: inner ++ ['\x7d']) =
          "\x7b/" ++ String.ofList (inner.takeWhile continuesName) ++
            String.ofList (inner.dropWhile continuesName) ++ "\x7d" := by
        simp [← String.toList_inj]
      rw [source, nothing]
      exact .closing (isName_takeWhile starts) blank
    · cases made
  · have none : (body.head? == some '/') = false := beq_eq_false_iff_ne.mpr slash
    rw [none, if_neg Bool.false_ne_true] at made
    split at made
    · rename_i accepted
      obtain rfl := Option.some.inj made
      simp only [Bool.and_eq_true, Bool.false_and, Bool.not_false, and_true] at accepted
      obtain ⟨starts, apart⟩ := accepted
      have inside : Text.Plain (String.ofList (body.dropWhile continuesName)) := by
        intro c member
        rw [String.toList_ofList] at member
        exact plain c ((List.dropWhile_sublist _).subset member)
      have source : String.ofList ('\x7b' :: body ++ ['\x7d']) =
          "\x7b" ++ String.ofList (body.takeWhile continuesName) ++
            String.ofList (body.dropWhile continuesName) ++ "\x7d" := by
        simp [← String.toList_inj]
      have trimmed : String.ofList (Text.trimChars (body.dropWhile continuesName)) =
          Text.trim (String.ofList (body.dropWhile continuesName)) := by
        rw [Text.trim, String.toList_ofList]
      rw [source, trimmed]
      exact .opening (isName_takeWhile starts) (by rwa [String.toList_ofList]) inside
    · cases made

end Tag

namespace Token

/-- Characters that begin no tag are grouped to one text. -/
theorem group_untagged (reversed : List Char) {pieces : List Piece}
    (untagged : ∀ mark, .tag mark ∉ pieces) :
    group reversed pieces =
      ofRun ((pieces.flatMap Piece.sourceChars).reverse ++ reversed) := by
  induction pieces generalizing reversed with
  | nil => rfl
  | cons piece rest inductionHypothesis =>
    cases piece with
    | char c =>
      rw [group, inductionHypothesis _ fun mark member =>
        untagged mark (List.mem_cons_of_mem _ member)]
      simp [Piece.sourceChars]
    | tag mark => exact absurd List.mem_cons_self (untagged mark)

/-- A text that no tag is read from is one text token, unless it is empty. -/
theorem tokenize_untagged {text : String} (filled : text ≠ "")
    (untagged : ∀ mark, .tag mark ∉ Text.pieces text) : tokenize text = [.text text] := by
  have chars : (Text.pieces text).flatMap Piece.sourceChars = text.toList :=
    Piece.sources_scan 0 text.toList
  have some : (text.toList.reverse).isEmpty = false := by
    simpa using filled
  have one := group_untagged [] untagged
  rw [chars, List.append_nil, ofRun, some, if_neg Bool.false_ne_true, List.reverse_reverse,
    String.ofList_toList] at one
  exact one

end Token

/-- Reading tokens is exact and does not look around. A text of the grammar of tags is one token, the
tag with its name, its trimmed attributes and the text itself, and what stands in front of it and
behind it is read as if nothing else were there, even a brace that is opened in front and never
closed, or closed behind and never opened. A text is one text token exactly if it is not empty and
no part of it belongs to the grammar.

Proof: no tag holds a brace between its two, so none reaches across the brace that opens another
one; and whatever is read as a tag has a body of the grammar between its braces. -/
theorem Token.tags_read_in_any_context :
    (∀ {text name : String} {closing : Bool} {attributeText : String},
      Tag.Grammar text name closing attributeText → ∀ front behind : String,
        tokenize (front ++ text ++ behind) =
          tokenize front ++ .tag ⟨name, closing, attributeText, text⟩ :: tokenize behind) ∧
      ∀ text : String, tokenize text = [.text text] ↔
        text ≠ "" ∧ ∀ front inner behind name closing attributeText,
          Tag.Grammar inner name closing attributeText → text ≠ front ++ inner ++ behind := by
  have context {text name : String} {closing : Bool} {attributeText : String}
      (tagged : Tag.Grammar text name closing attributeText) (front behind : String) :
      tokenize (front ++ text ++ behind) =
        tokenize front ++ .tag ⟨name, closing, attributeText, text⟩ :: tokenize behind := by
    rw [String.append_assoc]
    exact tokenize_tag front tagged.spelled behind
  refine ⟨context, fun text => ⟨fun one => ⟨?_, ?_⟩, ?_⟩⟩
  · rintro rfl
    cases one
  · rintro front inner behind name closing attributeText tagged rfl
    rw [context tagged] at one
    have among : .tag ⟨name, closing, attributeText, inner⟩ ∈
        [Token.text (front ++ inner ++ behind)] := by
      rw [← one]
      exact List.mem_append_right _ List.mem_cons_self
    cases List.mem_singleton.mp among
  · rintro ⟨filled, untagged⟩
    refine tokenize_untagged filled fun mark member => ?_
    obtain ⟨front, body, behind, chars, plain, made⟩ := Piece.body_of_mem_scan member
    refine untagged (String.ofList front) _ (String.ofList behind) _ _ _
      (Tag.grammar_of_body plain made) ?_
    rw [← String.toList_inj, chars]
    simp

/-- A tag between half of another one and a closing tag with attributes, which is none. -/
theorem Token.tag_read_between_halves :
    Tag.Grammar "\x7bfield  name=\"a\" \x7d" "field" false "name=\"a\"" ∧
      tokenize ("\x7bform \x7b" ++ "\x7bfield  name=\"a\" \x7d" ++ "\x7d\x7b/form x\x7d") =
        [.text "\x7bform \x7b", .tag ⟨"field", false, "name=\"a\"", "\x7bfield  name=\"a\" \x7d"⟩,
          .text "\x7d\x7b/form x\x7d"] := by
  have trimmed : Text.trim "  name=\"a\" " = "name=\"a\"" := by decide +kernel
  have tagged : Tag.Grammar "\x7bfield  name=\"a\" \x7d" "field" false "name=\"a\"" := by
    rw [← trimmed]
    exact @Tag.Grammar.opening "field" "  name=\"a\" " (by decide) (by decide) (by decide)
  obtain ⟨context, -⟩ := tags_read_in_any_context
  refine ⟨tagged, ?_⟩
  rw [context tagged]
  decide +kernel

end Formwork
