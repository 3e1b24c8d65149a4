import Formwork.Text.Basic

/-!
# HTML text

Escaping for text and attribute values. Braces are escaped as well, so no value that was escaped can
be read as a template tag when the text around it is read again.
-/

namespace Formwork.Html

/-- The characters that are written as entities, in the order in which they are replaced. The
ampersand comes first, because every entity begins with one. -/
def entities : List (Char × String) :=
  [('&', "&amp;"), ('<', "&lt;"), ('>', "&gt;"), ('"', "&quot;"), ('\x27', "&#x27;"),
   ('\x7b', "&#123;"), ('\x7d', "&#125;")]

/-- The text with markup characters and braces written as entities, one kind of character after
another. -/
def escape (text : String) : String :=
  entities.foldl (fun text (c, entity) => Text.replaceChar c entity text) text

/-- The characters written for one character. -/
def escapeChar (c : Char) : List Char :=
  match c with
  | '&' => "&amp;".toList
  | '<' => "&lt;".toList
  | '>' => "&gt;".toList
  | '"' => "&quot;".toList
  | '\x27' => "&#x27;".toList
  | '\x7b' => "&#123;".toList
  | '\x7d' => "&#125;".toList
  | c => [c]

/-- Each character is escaped for itself: no replacement finds anything in the entities that were
written before it. -/
theorem toList_escape (text : String) :
    (escape text).toList = text.toList.flatMap escapeChar := by
  simp only [escape, entities, List.foldl_cons, List.foldl_nil, Text.toList_replaceChar,
    List.flatMap_assoc]
  refine congrArg (text.toList.flatMap ·) (funext fun c => ?_)
  fun_cases escapeChar c with
  | case1 => rfl
  | case2 => rfl
  | case3 => rfl
  | case4 => rfl
  | case5 => rfl
  | case6 => rfl
  | case7 => rfl
  | case8 _ ampersand less greater double single opening closing =>
    simp only [if_neg ampersand, if_neg less, if_neg greater, if_neg double, if_neg single,
      if_neg opening, if_neg closing, List.flatMap_singleton]

/-- One attribute of a start tag, behind a space. The name is written as given. -/
def attributeText (name value : String) : String := " " ++ name ++ "=\"" ++ escape value ++ "\""

/-- Attributes of a start tag, in order. -/
def attributesText (pairs : List (String × String)) : String :=
  String.join (pairs.map fun (name, value) => attributeText name value)

/-- A character that an element identifier may hold. -/
def identifierChar (c : Char) : Bool := c.isAlphanum || c == '-' || c == '_'

/-- Underscores at the end are left out. -/
def dropUnderscoreRight : List Char → List Char
  | [] => []
  | c :: rest =>
    match dropUnderscoreRight rest with
    | [] => if c = '_' then [] else [c]
    | kept => c :: kept

/-- The element identifier for a field name: other characters become underscores, and underscores at
either end are left out. -/
def elementId (name : String) : String :=
  let chars := name.toList.map fun c => if identifierChar c then c else '_'
  String.ofList (dropUnderscoreRight (chars.dropWhile (· == '_')))

end Formwork.Html
