import Formwork.Text.Blank

/-!
# Plain text operations

Trimming, splitting at one character, joining and searching. Each works on the characters of its
argument and is structurally recursive, so a closed instance can be evaluated in a proof. Case
folding of tag names, options and flags is ASCII only and is `String.toLower`; names of forms use
`Formwork.Text.lowercase`.
-/

namespace Formwork.Text

/-- Removes blank characters at the end. -/
def dropBlankRight : List Char → List Char
  | [] => []
  | c :: rest =>
    match dropBlankRight rest with
    | [] => if isBlank c then [] else [c]
    | kept => c :: kept

/-- Removes blank characters at both ends. -/
def trimChars (chars : List Char) : List Char :=
  dropBlankRight (chars.dropWhile isBlank)

/-- The text without blank characters at either end. -/
def trim (text : String) : String :=
  String.ofList (trimChars text.toList)

/-- The pieces between occurrences of a separator, empty pieces included. There is always one. -/
def splitChars (separator : Char) : List Char → List (List Char)
  | [] => [[]]
  | c :: rest =>
    match splitChars separator rest with
    | [] => [[c]]
    | piece :: pieces =>
      if c = separator then [] :: piece :: pieces else (c :: piece) :: pieces

/-- The pieces of a text between occurrences of a separator. -/
def split (separator : Char) (text : String) : List String :=
  (splitChars separator text.toList).map String.ofList

/-- A comma-separated list: pieces are trimmed and blank pieces are left out. -/
def commaList (text : String) : List String :=
  ((split ',' text).map trim).filter (· ≠ "")

/-- The text with another one in place of every occurrence of a character. -/
def replaceChar (c : Char) (replacement text : String) : String :=
  String.ofList (text.toList.flatMap fun given => if given = c then replacement.toList else [given])

/-- The characters of a text in which one is replaced. -/
theorem toList_replaceChar (c : Char) (replacement text : String) :
    (replaceChar c replacement text).toList =
      text.toList.flatMap fun given => if given = c then replacement.toList else [given] :=
  String.toList_ofList

/-- Texts with a separator between neighbours. -/
def joinWith (separator : String) : List String → String
  | [] => ""
  | [text] => text
  | text :: rest => text ++ separator ++ joinWith separator rest

/-- The second list starts with the first. -/
def startsWithChars : List Char → List Char → Bool
  | [], _ => true
  | _ :: _, [] => false
  | c :: cs, d :: ds => c == d && startsWithChars cs ds

/-- The needle occurs somewhere in the characters. -/
def occursInChars (needle : List Char) : List Char → Bool
  | [] => needle.isEmpty
  | c :: rest => startsWithChars needle (c :: rest) || occursInChars needle rest

/-- The needle occurs in the text as consecutive characters. -/
def occursIn (needle text : String) : Bool :=
  occursInChars needle.toList text.toList

/-- Two texts are the same name when they differ at most in the case of ASCII letters. -/
def sameName (left right : String) : Bool :=
  left.toLower == right.toLower

end Formwork.Text
