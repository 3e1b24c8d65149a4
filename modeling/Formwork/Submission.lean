import Formwork.Text.Hex
import Formwork.Text.Utf8
import Formwork.Text.Basic
import Formwork.Decimal.Style
import Formwork.TextMap

/-!
# Posted data

A browser posts pairs of key and value. A key such as `name[row]` stands for a path: its head and
the segments in brackets. Every pair is filed in a tree under two roots, one for values that go to
the database and one for values that go to the page; the form identifier is read from the first and
fields from the second.
-/

namespace Formwork

/-- A posted value, or a group of them. -/
inductive Posted where
  /-- One value. -/
  | text (value : String)
  /-- Values by segment, in the order of segments. -/
  | group (members : List (String × Posted))
deriving Repr, Inhabited

namespace Posted

/-- The value, unless this is a group. -/
def text? : Posted → Option String
  | .text value => some value
  | .group _ => none

/-- The members of a group; a single value has none. -/
def members : Posted → Entries Posted
  | .text _ => []
  | .group members => members

/-- This is a group. -/
def isGroup : Posted → Bool
  | .text _ => false
  | .group _ => true

/-- The segment that a value is filed under: an empty segment stands for the number of members. -/
def segmentKey (segment : String) (members : Entries Posted) : String :=
  if segment = "" then Decimal.natText members.length else segment

/-- Files a value under a path. What stands on the way and is no group is replaced by one, and so is
what stands at the end. An empty path files nothing. -/
def insertAt : List String → String → Entries Posted → Entries Posted
  | [], _, members => members
  | [segment], value, members => members.insert (segmentKey segment members) (.text value)
  | segment :: rest, value, members =>
    let key := segmentKey segment members
    let inner := ((members.get? key).map Posted.members).getD []
    members.insert key (.group (insertAt rest value inner))

/-- What stands at a path. Nothing stands at the empty path. -/
def getAt? : List String → Entries Posted → Option Posted
  | [], _ => none
  | [segment], members => members.get? segment
  | segment :: rest, members =>
    match members.get? segment with
    | some (.group inner) => getAt? rest inner
    | _ => none

end Posted

/-- Data posted with one request. -/
structure Submission where
  /-- The roots with what is filed under them. -/
  roots : Entries Posted := []
deriving Repr, Inhabited

namespace Submission

/-- The root of values that go to the database. -/
def databaseRoot : String := "MYSQL"

/-- The root of values that go to the page. -/
def pageRoot : String := "HTML"

/-- The key that carries the form identifier. -/
def formIdKey : String := "__formID"

/-- Nothing was posted. -/
def empty : Submission := {}

/-! ## Keys -/

/-- The segments of bracket groups that fill the characters, or `none` if something else stands
there. The first argument holds the characters of the open group, last first. -/
def groups? : Option (List Char) → List Char → Option (List String)
  | none, [] => some []
  | some _, [] => none
  | none, c :: rest => if c = '[' then groups? (some []) rest else none
  | some reversed, c :: rest =>
    if c = ']' then (groups? none rest).map (String.ofList reversed.reverse :: ·)
    else groups? (some (c :: reversed)) rest

/-- The path that a key stands for. A key whose brackets are not groups up to its end is one
segment. -/
def path (key : String) : List String :=
  let head := key.toList.takeWhile (· ≠ '[')
  match groups? none (key.toList.dropWhile (· ≠ '[')) with
  | some segments => String.ofList head :: segments
  | none => [key]

/-! ## Filing -/

/-- The submission with one value filed under a path. -/
def insert (submission : Submission) (path : List String) (value : String) : Submission :=
  ⟨Posted.insertAt path value submission.roots⟩

/-- The submission with one pair filed under both roots. -/
def file (submission : Submission) (key value : String) : Submission :=
  (submission.insert (databaseRoot :: path key) value).insert (pageRoot :: path key) value

/-- The submission of pairs, filed in order. -/
def ofPairs (pairs : List (String × String)) : Submission :=
  pairs.foldl (fun submission (key, value) => submission.file key value) empty

/-! ## Reading a request body -/

/-- The octets that percent-encoded octets stand for. A percent sign that two hexadecimal digits do
not follow stands for itself. -/
def percentDecode : List UInt8 → List UInt8
  | [] => []
  | [first] => [first]
  | [first, second] => [first, second]
  | first :: second :: third :: rest =>
    match Text.hexValue? (Char.ofNat second.toNat), Text.hexValue? (Char.ofNat third.toNat) with
    | some high, some low =>
      if first = 0x25 then UInt8.ofNat (16 * high + low) :: percentDecode rest
      else first :: percentDecode (second :: third :: rest)
    | _, _ => first :: percentDecode (second :: third :: rest)

/-- The text that a component of a request body stands for: plus signs are spaces, and octets that
are no UTF-8 are replaced. -/
def decodeComponent (component : String) : String :=
  let octets := (Text.Utf8.encode component).map fun octet => if octet = 0x2B then 0x20 else octet
  Text.Utf8.decodeLenient (percentDecode octets)

/-- The pair written in a part of a request body. Without an equals sign the value is empty. -/
def pairOf (part : List Char) : String × String :=
  (decodeComponent (String.ofList (part.takeWhile (· ≠ '='))),
    decodeComponent (String.ofList ((part.dropWhile (· ≠ '=')).drop 1)))

/-- The submission written in a request body: pairs with ampersands between them. -/
def parse (body : String) : Submission :=
  ofPairs (((Text.splitChars '&' body.toList).filter (· ≠ [])).map pairOf)

/-! ## Look-up -/

/-- What is filed under a path. -/
def get? (submission : Submission) (path : List String) : Option Posted :=
  Posted.getAt? path submission.roots

/-- The posted form identifier, unless it is empty. -/
def formId? (submission : Submission) : Option String :=
  ((submission.get? [databaseRoot, formIdKey]).bind Posted.text?).filter (· ≠ "")

/-- The posted value of a field. -/
def value? (submission : Submission) (field : String) : Option String :=
  (submission.get? [pageRoot, field]).bind Posted.text?

/-- The posted value of a field in one row. -/
def rowValue? (submission : Submission) (field rowId : String) : Option String :=
  (submission.get? [pageRoot, field, rowId]).bind Posted.text?

/-- The field was posted with values for rows. -/
def hasRows (submission : Submission) (field : String) : Bool :=
  (submission.get? [pageRoot, field]).any Posted.isGroup

/-- The rows that the field was posted for. -/
def rowIds (submission : Submission) (field : String) : List String :=
  (((submission.get? [pageRoot, field]).map Posted.members).getD []).map (·.1)

/-- Nothing was posted. -/
def isEmpty (submission : Submission) : Bool := submission.roots.isEmpty

end Submission

end Formwork
