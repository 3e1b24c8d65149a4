import Formwork.Text.Hex
import Formwork.Text.Visible
import Formwork.Text.Basic

/-!
# Quoted text

How names and paths are shown in messages for developers: between double quotes, with double quotes,
backslashes and line characters escaped and every character that would not show up on its own written
by its code.
-/

namespace Formwork.Text

/-- The characters written for one character between quotes. -/
def quotedChar (c : Char) : List Char :=
  match c with
  | '"' => ['\\', '"']
  | '\\' => ['\\', '\\']
  | '\n' => ['\\', 'n']
  | '\r' => ['\\', 'r']
  | '\t' => ['\\', 't']
  | '\x00' => ['\\', '0']
  | c =>
    if isVisible c then [c]
    else ['\\', 'u', '\x7b'] ++ Nat.toDigits 16 c.toNat ++ ['\x7d']

/-- The text in double quotes. -/
def quoted (text : String) : String :=
  String.ofList ('"' :: text.toList.flatMap quotedChar ++ ['"'])

/-- Items in square brackets, separated by commas. -/
def bracketed (items : List String) : String := "[" ++ joinWith ", " items ++ "]"

end Formwork.Text
