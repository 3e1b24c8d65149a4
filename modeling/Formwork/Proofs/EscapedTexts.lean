import Formwork.Proofs.PlainMarkup
import Formwork.Proofs.SpelledTexts

/-!
# Escaped texts

A text is escaped by seven replacements, one after another. Since the ampersand is
replaced first and no entity holds any of the other six characters, each replacement
leaves what the earlier ones wrote, so every character is escaped for itself. What
is written can be read again by one pass over the entities, and no template tag is
read from it, whatever plain text it is put into.
-/

namespace Formwork

namespace Html

open Text (startsWithChars)

/-! ## Reading entities -/

/-- The character whose entity the given characters begin with, and the length of the entity. -/
def entity? (chars : List Char) : Option (Char × Nat) :=
  (entities.find? fun named => startsWithChars named.2.toList chars).map
    fun named => (named.1, named.2.length)

/-- Reads entities from left to right. The number says how many characters still belong to the
entity that was read last. What is read is never read again. -/
def scanEntities : Nat → List Char → List Char
  | _, [] => []
  | covered + 1, _ :: rest => scanEntities covered rest
  | 0, c :: rest =>
    match entity? (c :: rest) with
    | some (named, length) => named :: scanEntities (length - 1) rest
    | none => c :: scanEntities 0 rest

/-- The text that a text with entities stands for. -/
def unescape (text : String) : String := String.ofList (scanEntities 0 text.toList)

/-- What an ampersand was written for is not read a second time. -/
example : unescape "&amp;lt; &lt; & &quot" = "&lt; < & &quot" := by decide

/-- Every entity begins with an ampersand. -/
theorem entity?_of_ne {c : Char} (other : c ≠ '&') (rest : List Char) :
    entity? (c :: rest) = none := by
  have apart : ('&' == c) = false := beq_eq_false_iff_ne.mpr other.symm
  have none : ∀ named ∈ entities, ¬ startsWithChars named.2.toList (c :: rest) = true := by
    intro named member
    have begins : named.2.toList.head? = some '&' := by
      revert named
      decide
    obtain ⟨behind, spelled⟩ := List.head?_eq_some_iff.mp begins
    simp [spelled, startsWithChars, apart]
  rw [entity?, List.find?_eq_none.mpr none]
  rfl

/-- Whatever was written for a character is read as that character, in front of anything. -/
theorem scanEntities_escapeChar (c : Char) (rest : List Char) :
    scanEntities 0 (escapeChar c ++ rest) = c :: scanEntities 0 rest := by
  fun_cases escapeChar c with
  | case1 => rfl
  | case2 => rfl
  | case3 => rfl
  | case4 => rfl
  | case5 => rfl
  | case6 => rfl
  | case7 => rfl
  | case8 _ ampersand =>
    rw [List.singleton_append, scanEntities, entity?_of_ne ampersand]

/-- Reading the entities of an escaped text gives the text. -/
theorem unescape_escape (text : String) : unescape (escape text) = text := by
  have read (chars : List Char) : scanEntities 0 (chars.flatMap escapeChar) = chars := by
    induction chars with
    | nil => rfl
    | cons c rest inductionHypothesis =>
      rw [List.flatMap_cons, scanEntities_escapeChar, inductionHypothesis]
  rw [unescape, toList_escape, read, String.ofList_toList]

/-- Texts are escaped part by part. -/
theorem escape_append (left right : String) :
    escape (left ++ right) = escape left ++ escape right := by
  apply String.toList_injective
  simp only [String.toList_append, toList_escape, List.flatMap_append]

/-! ## What escaping is -/

/-- Escaping is one pass and inert. The replacements one after another write every character for
itself, so parts are escaped apart; of the characters that begin or end markup, quoted values and
template tags none is left; one pass over the entities gives the text back; and no tag is read from
the escaped text between any texts without braces, the empty ones among them.

Proof: an escaped text holds no brace, so the whole is without braces, and a tag needs one. -/
theorem escaped_in_one_pass (text : String) :
    escape text = String.ofList (text.toList.flatMap escapeChar) ∧
      (∀ other, escape (text ++ other) = escape text ++ escape other) ∧
      (∀ c ∈ (escape text).toList, c ∉ ['<', '>', '"', '\x27', '\x7b', '\x7d']) ∧
      unescape (escape text) = text ∧
      ∀ before behind, Text.Plain before → Text.Plain behind →
        ∀ token ∈ Token.tokenize (before ++ escape text ++ behind),
          ∃ content, token = .text content := by
  refine ⟨?_, escape_append text, ?_, unescape_escape text, ?_⟩
  · rw [← toList_escape, String.ofList_toList]
  · intro c member
    exact mem_escape member
  · intro before behind plainBefore plainBehind
    apply Token.tokenize_plain
    simp [plainBefore, plainBehind]

/-- A form tag with an entity in it, between the two halves of an element. -/
theorem escaped_tag_is_text :
    Text.Plain "<b>" ∧ Text.Plain "</b>" ∧
      ∀ token ∈ Token.tokenize ("<b>" ++ escape "\x7bform title=\"&amp;\"\x7d" ++ "</b>"),
        ∃ content, token = .text content := by
  have before : Text.Plain "<b>" := by decide
  have behind : Text.Plain "</b>" := by decide
  obtain ⟨-, -, -, -, inert⟩ := escaped_in_one_pass "\x7bform title=\"&amp;\"\x7d"
  exact ⟨before, behind, inert "<b>" "</b>" before behind⟩

end Html

end Formwork
