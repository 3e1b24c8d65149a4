import Formwork.Proofs.AttributeRewriting
import Formwork.Proofs.SinglePass
import Formwork.Proofs.TagGrammar

/-!
# Bodies of loops over fields

A loop over fields repeats its body, and the first field tag without a name is given
that of the field. The result is a text again, which is read afresh in a later pass.
Whatever the body is, stray braces and all, this reading gives the tokens of the body
with the one tag replaced: the tag that was named is spelled out as a tag of its own,
and no tag around it is read differently.
-/

namespace Formwork

namespace Attributes

/-- What writing a value does: if the name is there, its value is replaced where it stands, and else
a pair is added behind the others. -/
theorem set_cases (attributes : Attributes) (name value : String) :
    (attributes.get? name = none ∧
      (attributes.set name value).pairs = attributes.pairs ++ [(name, value)]) ∨
    ∃ left before right, attributes.get? name = some before ∧
      attributes.pairs = left ++ (name, before) :: right ∧
      (attributes.set name value).pairs = left ++ (name, value) :: right := by
  obtain ⟨pairs⟩ := attributes
  induction pairs with
  | nil => exact .inl ⟨rfl, rfl⟩
  | cons pair rest inductionHypothesis =>
    obtain ⟨first, stored⟩ := pair
    by_cases same : first = name
    · subst same
      refine .inr ⟨[], stored, rest, ?_, rfl, ?_⟩
      · simp [get?]
      · simp [set, setPair]
    · have found : (Attributes.mk ((first, stored) :: rest)).get? name =
          (Attributes.mk rest).get? name := by simp [get?, same]
      have written : ((Attributes.mk ((first, stored) :: rest)).set name value).pairs =
          (first, stored) :: ((Attributes.mk rest).set name value).pairs := by
        simp [set, setPair, same]
      rw [found, written]
      rcases inductionHypothesis with ⟨absent, added⟩ | ⟨left, before, right, there, split, changed⟩
      · exact .inl ⟨absent, by rw [added, List.cons_append]⟩
      · refine .inr ⟨(first, stored) :: left, before, right, there, ?_, ?_⟩
        · rw [List.cons_append, ← split]
        · rw [List.cons_append, ← changed]

/-- Attributes without double quotes stay so when such a value is written. -/
theorem Unquoted.set {attributes : Attributes} (unquoted : attributes.Unquoted) (name : String)
    {value : String} (plain : '"' ∉ value.toList) : (attributes.set name value).Unquoted := by
  intro pair member
  rcases mem_setPair member with rfl | before
  · exact plain
  · exact unquoted pair before

end Attributes

/-! ## Tags written afresh -/

namespace Tag

/-- The name of a proper tag is a name of tags. -/
theorem Proper.isName {mark : Tag} (proper : mark.Proper) : isName mark.name = true := by
  obtain ⟨first, rest, named, starts, continued⟩ := proper.named
  rw [Tag.isName, named]
  simpa [starts] using continued

/-- A tag with other attributes than none is written with a blank in front of them. -/
theorem withAttributes_written {mark : Tag} {attributes : Attributes}
    (named : ∀ pair ∈ attributes.pairs, Attributes.IsName pair.1) (filled : attributes.pairs ≠ []) :
    mark.withAttributes attributes = written mark.name (" " ++ attributes.toSource) := by
  have trimmed := Attributes.trim_toSource named
  have some : attributes.toSource ≠ "" := by
    obtain ⟨pairs⟩ := attributes
    obtain ⟨⟨name, value⟩, rest, rfl⟩ := List.exists_cons_of_ne_nil filled
    rw [ne_eq, ← String.toList_eq_nil_iff, Attributes.toSource_chars]
    simp
  have behind : Text.trim (" " ++ attributes.toSource) = Text.trim attributes.toSource := by
    rw [Text.trim, Text.trim, String.toList_append]
    rfl
  rw [withAttributes, opening, written, behind, trimmed, if_neg some,
    ← String.append_assoc]

/-- A proper tag with proper attributes is spelled out, and its attributes are read from it. -/
theorem Proper.rewritten {mark : Tag} (proper : mark.Proper) {attributes : Attributes}
    (named : ∀ pair ∈ attributes.pairs, Attributes.IsName pair.1) (filled : attributes.pairs ≠ [])
    (distinct : attributes.Distinct) (unquoted : attributes.Unquoted)
    (plain : Text.Plain attributes.toSource) :
    (mark.withAttributes attributes).Spelled ∧
      (mark.withAttributes attributes).attributes = attributes := by
  constructor
  · rw [withAttributes_written named filled]
    apply written_spelled proper.isName
    · rw [String.toList_append]
      rfl
    · exact Text.plain_append.mpr ⟨by decide, plain⟩
  · have given : (mark.withAttributes attributes).attributeText = attributes.toSource :=
      Attributes.trim_toSource named
    rw [Tag.attributes, given, Attributes.parse_toSource distinct named unquoted]

end Tag

/-! ## Tokens with one tag replaced -/

namespace Token

/-- A list of tokens is divided at a tag in one way only, as far as the texts in front of it agree. -/
theorem divided_alike {left right first last : List Token} {mark : Tag}
    (same : left ++ .tag mark :: right = first ++ .tag mark :: last)
    (texts : sources left = sources first) (filled : mark.source ≠ "") :
    left = first ∧ right = last := by
  -- A longer part would hold the tag, whose text is not empty.
  have longer {part others : List Token} (equal : sources part = sources (part ++ others))
      (begins : others.head? = some (.tag mark)) : False := by
    obtain ⟨rest, rfl⟩ := List.head?_eq_some_iff.mp begins
    rw [sources_append, sources_cons, ← String.toList_inj, String.toList_append,
      List.self_eq_append_right, String.toList_append, List.append_eq_nil_iff,
      String.toList_eq_nil_iff] at equal
    exact filled equal.1
  rcases List.append_eq_append_iff.mp same with ⟨others, rfl, rest⟩ | ⟨others, rfl, rest⟩
  · cases others with
    | nil => exact ⟨(List.append_nil _).symm, (List.cons.inj rest).2⟩
    | cons token later =>
      obtain ⟨rfl, -⟩ := List.cons.inj rest
      exact (longer texts rfl).elim
  · cases others with
    | nil => exact ⟨List.append_nil _, (List.cons.inj rest).2.symm⟩
    | cons token later =>
      obtain ⟨rfl, -⟩ := List.cons.inj rest
      exact (longer texts.symm rfl).elim

/-- A tag that is read from a text is spelled. -/
theorem spelled_of_mem {text : String} {mark : Tag} (member : .tag mark ∈ tokenize text) :
    mark.Spelled := by
  obtain ⟨front, behind, whole⟩ := List.append_of_mem member
  have alone : [Token.tag mark] <:+: tokenize text := ⟨front, behind, by simp [whole]⟩
  have read := pieces_infix alone
  rwa [sources_cons, show sources [] = "" from rfl, String.append_empty] at read

/-- It is proper, as it stands between two braces of the text. -/
theorem proper_of_mem {text : String} {mark : Tag} (member : .tag mark ∈ tokenize text) :
    mark.Proper := by
  have alone : .tag mark ∈ Text.pieces mark.source := by
    rw [spelled_of_mem member]
    exact List.mem_singleton_self _
  exact Piece.proper_of_mem_scan alone

/-- A tag of a text may be replaced by a spelled one: the text with the other tag is read as the
tokens before with the other tag among them. -/
theorem tokenize_replaced {text : String} {before behind : List Token} {mark other : Tag}
    (read : tokenize text = before ++ .tag mark :: behind) (spelled : other.Spelled) :
    tokenize (sources (before ++ .tag other :: behind)) = before ++ .tag other :: behind := by
  have member : .tag mark ∈ tokenize text := by simp [read]
  have was := spelled_of_mem member
  have filled : mark.source ≠ "" := by
    obtain ⟨rest, opens⟩ := was.opens
    rw [ne_eq, ← String.toList_eq_nil_iff, opens]
    exact List.cons_ne_nil _ _
  have whole : text = sources before ++ (mark.source ++ sources behind) := by
    rw [← sources_tokenize text, read, sources_append, sources_cons]
    rfl
  have again : tokenize (sources before) ++ .tag mark :: tokenize (sources behind) =
      before ++ .tag mark :: behind := by
    rw [← tokenize_tag _ was, ← whole, read]
  obtain ⟨front, back⟩ := divided_alike again (sources_tokenize _) filled
  rw [sources_append, sources_cons]
  exact (tokenize_tag _ spelled _).trans (by rw [front, back])

/-- The token is an opening field tag whose name is missing or empty. -/
def isNameless : Token → Bool
  | .tag mark => mark.opens "field" && ((mark.attributes.get? "name").getD "" = "")
  | .text _ => false

end Token

namespace Page

/-! ## Naming a body -/

/-- Tokens that all have names are left. -/
theorem nameFirst_named (name : String) {tokens : List Token}
    (named : ∀ token ∈ tokens, token.isNameless = false) : nameFirst name tokens = tokens := by
  induction tokens with
  | nil => rfl
  | cons token rest inductionHypothesis =>
    obtain ⟨here, later⟩ := List.forall_mem_cons.mp named
    cases token with
    | text content => rw [nameFirst, inductionHypothesis later]
    | tag mark =>
      rw [Token.isNameless] at here
      rw [nameFirst, here, if_neg Bool.false_ne_true, inductionHypothesis later]

/-- The first token without a name is given one. -/
theorem nameFirst_at (name : String) {before : List Token}
    (named : ∀ token ∈ before, token.isNameless = false) {mark : Tag}
    (nameless : (Token.tag mark).isNameless = true) (behind : List Token) :
    nameFirst name (before ++ .tag mark :: behind) =
      before ++ .tag (mark.withAttributes (mark.attributes.set "name" name)) :: behind := by
  induction before with
  | nil =>
    rw [Token.isNameless] at nameless
    rw [List.nil_append, nameFirst, if_pos nameless, List.nil_append]
  | cons token rest inductionHypothesis =>
    obtain ⟨here, later⟩ := List.forall_mem_cons.mp named
    rw [List.cons_append, List.cons_append, ← inductionHypothesis later]
    cases token with
    | text content => rw [nameFirst]
    | tag other =>
      rw [Token.isNameless] at here
      rw [nameFirst, here, if_neg Bool.false_ne_true]

/-- The attributes of a tag that was given a name: the name stands where an empty one stood, and else
behind the other attributes. -/
def NamedAs (name : String) (before after : Attributes) : Prop :=
  (before.get? "name" = none ∧ after.pairs = before.pairs ++ [("name", name)]) ∨
    ∃ left right, before.pairs = left ++ ("name", "") :: right ∧
      after.pairs = left ++ ("name", name) :: right

/-- Writing a name where there was none, or an empty one, names. -/
theorem namedAs_set {attributes : Attributes}
    (nameless : (attributes.get? "name").getD "" = "") (name : String) :
    NamedAs name attributes (attributes.set "name" name) := by
  rcases attributes.set_cases "name" name with
    absent | ⟨left, before, right, found, split, changed⟩
  · exact .inl absent
  · rw [found, Option.getD_some] at nameless
    subst nameless
    exact .inr ⟨left, right, split, changed⟩

/-- A tag without double quotes in its attributes may be given a name without quotes and braces: it
is spelled out under its own name, and its attributes are read from it with the name among them. -/
theorem named_spelled {text : String} {mark : Tag} (member : .tag mark ∈ Token.tokenize text)
    (valued : mark.attributes.Unquoted) {name : String} (plain : Text.Plain name)
    (unquoted : '"' ∉ name.toList) :
    (mark.withAttributes (mark.attributes.set "name" name)).Spelled ∧
      (mark.withAttributes (mark.attributes.set "name" name)).attributes =
        mark.attributes.set "name" name := by
  have proper : mark.Proper := Token.proper_of_mem member
  have before : mark.attributes.AllPlain := Attributes.parse_allPlain proper.plain
  have key : Text.Plain "name" := by decide
  have bodied := (before.set key plain).toSource
  have filled : (mark.attributes.set "name" name).pairs ≠ [] := by
    rcases mark.attributes.set_cases "name" name with
      ⟨-, added⟩ | ⟨left, value, right, -, -, changed⟩
    · rw [added]
      simp
    · rw [changed]
      simp
  have letters : ['a', 'm', 'e'].all Attributes.continuesName = true := by decide
  have word : Attributes.IsName "name" :=
    ⟨'n', ['a', 'm', 'e'], by decide, by decide, List.all_eq_true.mp letters⟩
  have properly : ∀ pair ∈ (mark.attributes.set "name" name).pairs, Attributes.IsName pair.1 := by
    intro pair written
    rcases Attributes.mem_setPair written with rfl | earlier
    · exact word
    · exact Attributes.isName_parse earlier
  exact proper.rewritten properly filled ((Attributes.parse_distinct _).set _ _)
    (valued.set _ unquoted) bodied

/-- Naming a body replaces one token. Let no value among the attributes of a body hold a double
quote, and the name neither a double quote nor a brace. If every field tag of the body has a name,
the body is left as it is. Else the first one without is followed and preceded by the same tokens
when the named body is read again, and is an opening tag of the same tag name whose attributes are
those it had with the name in place of the empty one, or behind them if there was none.

Proof: the tag is written with its attributes in double quotes, which is the spelling of a tag, and a
tag that is spelled out is read as itself whatever stands around it. -/
theorem named_body_read_again (body name : String) (plain : Text.Plain name)
    (unquoted : '"' ∉ name.toList)
    (valued : ∀ mark, .tag mark ∈ Token.tokenize body → mark.attributes.Unquoted) :
    (∀ token ∈ Token.tokenize body, token.isNameless = false) ∧ nameFirstTag body name = body ∨
      ∃ before mark behind, Token.tokenize body = before ++ .tag mark :: behind ∧
        (∀ token ∈ before, token.isNameless = false) ∧ (Token.tag mark).isNameless = true ∧
        ∃ named : Tag, Token.tokenize (nameFirstTag body name) = before ++ .tag named :: behind ∧
          named.name = mark.name ∧ named.closing = false ∧
          NamedAs name mark.attributes named.attributes := by
  cases first : (Token.tokenize body).find? Token.isNameless with
  | none =>
    have named : ∀ token ∈ Token.tokenize body, token.isNameless = false := by
      simpa using first
    refine .inl ⟨named, ?_⟩
    rw [nameFirstTag, nameFirst_named name named, Token.sources_tokenize]
  | some token =>
    obtain ⟨nameless, before, behind, whole, earlier⟩ := List.find?_eq_some_iff_append.mp first
    have named : ∀ token ∈ before, token.isNameless = false := by
      simpa using earlier
    cases token with
    | text content => cases nameless
    | tag mark =>
      have member : .tag mark ∈ Token.tokenize body := by simp [whole]
      obtain ⟨spelled, read⟩ := named_spelled member (valued mark member) plain unquoted
      refine .inr ⟨before, mark, behind, whole, named, nameless,
        mark.withAttributes (mark.attributes.set "name" name), ?_, rfl, rfl, ?_⟩
      · rw [nameFirstTag, whole, nameFirst_at name named nameless,
          Token.tokenize_replaced whole spelled]
      · rw [read]
        rw [Token.isNameless, Bool.and_eq_true, decide_eq_true_eq] at nameless
        exact namedAs_set nameless.2 name

/-- A field tag in capitals with an empty name between a loose brace and another field tag. -/
theorem shouted_field_read_again :
    let body := "\x7b \x7bFIELD name='' ; label=\"it's\"\x7d\x7bfield\x7d"
    Text.Plain "email" ∧ '"' ∉ "email".toList ∧
      (∀ mark, .tag mark ∈ Token.tokenize body → mark.attributes.Unquoted) ∧
      ∃ before mark behind, Token.tokenize body = before ++ .tag mark :: behind ∧
        ∃ named : Tag, Token.tokenize (nameFirstTag body "email") =
            before ++ .tag named :: behind ∧
          NamedAs "email" mark.attributes named.attributes := by
  intro body
  have tokens : Token.tokenize body =
      [.text "\x7b ",
        .tag ⟨"FIELD", false, "name='' ; label=\"it's\"",
          "\x7bFIELD name='' ; label=\"it's\"\x7d"⟩,
        .tag ⟨"field", false, "", "\x7bfield\x7d"⟩] := by decide +kernel
  have plain : Text.Plain "email" := by decide
  have unquoted : '"' ∉ "email".toList := by decide
  have valued : ∀ mark, .tag mark ∈ Token.tokenize body → mark.attributes.Unquoted := by
    intro mark member
    rw [tokens] at member
    simp only [List.mem_cons, reduceCtorEq, Token.tag.injEq, List.not_mem_nil, or_false,
      false_or] at member
    rcases member with rfl | rfl
    · decide
    · decide
  refine ⟨plain, unquoted, valued, ?_⟩
  rcases named_body_read_again body "email" plain unquoted valued with
    ⟨named, -⟩ | ⟨before, mark, behind, whole, -, -, tag, read, -, -, renamed⟩
  · rw [tokens] at named
    have nameless : Token.isNameless (.tag ⟨"field", false, "", "\x7bfield\x7d"⟩) = true := by
      decide +kernel
    rw [named _ (by simp)] at nameless
    cases nameless
  · exact ⟨before, mark, behind, whole, tag, read, renamed⟩

/-- The first tag is named and the second one, which has no name either, is left. -/
example : nameFirstTag "\x7bfield display=\"label\"\x7d\x7bfield\x7d" "email" =
    "\x7bfield display=\"label\" name=\"email\"\x7d\x7bfield\x7d" := by
  decide +kernel

end Page

end Formwork
