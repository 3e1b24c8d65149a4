import Formwork.Template.Attributes

/-!
# Tokens of a template

A template is text with tags: a brace, an optional slash, a name, optionally a blank and attribute
text without braces, and the closing brace. A brace that opens no such tag is text, and so is a
closing tag with attributes. Since no tag holds a brace between its two, a tag begins at an opening
brace exactly when the next brace closes it and the characters between are a tag body; what stands
before or after a tag has no say in it.
-/

namespace Formwork

open Text (isBlank)

/-- A tag: `\x7bname ...\x7d` or `\x7b/name\x7d`. -/
structure Tag where
  /-- The name as written, without the slash. -/
  name : String
  /-- The tag closes a section. -/
  closing : Bool := false
  /-- The attribute text behind the name, trimmed. -/
  attributeText : String
  /-- The tag as it stands in the template. -/
  source : String
deriving DecidableEq, Repr, Inhabited

namespace Tag

/-- The opening tag with a name and attribute text, in its plain spelling. -/
def opening (name attributeText : String) : Tag :=
  let attributeText := Text.trim attributeText
  { name, attributeText
    source :=
      if attributeText = "" then "\x7b" ++ name ++ "\x7d"
      else "\x7b" ++ name ++ " " ++ attributeText ++ "\x7d" }

/-- The tag has the given name, up to the case of ASCII letters. -/
def isNamed (tag : Tag) (name : String) : Bool := Text.sameName tag.name name

/-- The tag opens a section, or stands alone, under the given name. -/
def opens (tag : Tag) (name : String) : Bool := !tag.closing && tag.isNamed name

/-- The tag closes a section of the given name. -/
def closes (tag : Tag) (name : String) : Bool := tag.closing && tag.isNamed name

/-- The name in lower case, behind a slash for a closing tag. -/
def key (tag : Tag) : String :=
  if tag.closing then "/" ++ tag.name.toLower else tag.name.toLower

/-- The attributes of the tag. -/
def attributes (tag : Tag) : Attributes := .parse tag.attributeText

/-- The opening tag of the same name with other attributes. -/
def withAttributes (tag : Tag) (attributes : Attributes) : Tag :=
  opening tag.name attributes.toSource

/-- A character that may begin a tag name. -/
def startsName (c : Char) : Bool := c.isAlpha || c == '_'

/-- A character that may continue a tag name. -/
def continuesName (c : Char) : Bool := startsName c || c.isDigit

/-- The tag whose characters between the braces are given, if they are a tag body. -/
def ofBody? (body : List Char) : Option Tag :=
  let closing := body.head? == some '/'
  let inner := if closing then body.tail else body
  let name := inner.takeWhile continuesName
  let behind := inner.dropWhile continuesName
  let attributeText := Text.trimChars behind
  if (name.head?.any startsName) && (behind.head?.all isBlank) && !(closing && attributeText ≠ [])
  then
    some
      { name := String.ofList name
        closing
        attributeText := String.ofList attributeText
        source := String.ofList (['\x7b'] ++ body ++ ['\x7d']) }
  else none

/-- Neither brace. -/
def isPlain (c : Char) : Bool := c != '\x7b' && c != '\x7d'

/-- The tag whose opening brace stands just before the given characters, with the number of
characters up to and including its closing brace. -/
def at? (chars : List Char) : Option (Tag × Nat) :=
  let body := chars.takeWhile isPlain
  if (chars.dropWhile isPlain).head? = some '\x7d' then
    (ofBody? body).map fun tag => (tag, body.length + 1)
  else none

end Tag

/-- A part of a template: text between tags, or one tag. -/
inductive Token where
  /-- Text between tags. -/
  | text (content : String)
  /-- One tag. -/
  | tag (tag : Tag)
deriving DecidableEq, Repr, Inhabited

/-- A position of a template that belongs to no tag, or a whole tag. -/
inductive Piece where
  /-- A character outside tags. -/
  | char (c : Char)
  /-- One tag. -/
  | tag (tag : Tag)
deriving DecidableEq, Repr

namespace Piece

/-- Reads pieces from left to right. The number says how many characters still belong to the tag
that was read last. -/
def scan : Nat → List Char → List Piece
  | _, [] => []
  | covered + 1, _ :: rest => scan covered rest
  | 0, c :: rest =>
    match if c = '\x7b' then Tag.at? rest else none with
    | some (mark, length) => .tag mark :: scan length rest
    | none => .char c :: scan 0 rest

end Piece

namespace Token

/-- A text token for collected characters, given last first; none for no characters. -/
def ofRun (reversed : List Char) : List Token :=
  if reversed.isEmpty then [] else [.text (String.ofList reversed.reverse)]

/-- Joins neighbouring characters into text tokens. The first argument holds the characters of the
current text, last first. -/
def group (reversed : List Char) : List Piece → List Token
  | [] => ofRun reversed
  | .char c :: rest => group (c :: reversed) rest
  | .tag mark :: rest => ofRun reversed ++ .tag mark :: group [] rest

/-- The tokens of a template. -/
def tokenize (template : String) : List Token := group [] (Piece.scan 0 template.toList)

/-- The part of the template that the token stands for. -/
def source : Token → String
  | .text content => content
  | .tag mark => mark.source

/-- The text of a token list. -/
def sources (tokens : List Token) : String := String.join (tokens.map source)

end Token

end Formwork
