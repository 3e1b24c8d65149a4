import Formwork.Proofs.JoinedTexts
import Formwork.Proofs.PostedTree
import Formwork.Proofs.Utf8Octets
import Mathlib.Data.List.Basic

/-!
# Bodies of requests

A body is written octet by octet: letters, digits and four marks as they are, a space as a
plus sign, and every other octet as a percent sign and two hexadecimal digits. Neither of
the signs between pairs, between key and value, or in front of digits is written for an
octet of a key or value as such, so each reader undoes one step: ampersands and equals
signs divide what was put together, plus signs become spaces before percent signs can
bring any other back, and the octets are those of the text.

Whatever a body holds, its pairs are filed under both roots alike.
-/

namespace Formwork

open Text (hexDigit hexValue?)

namespace Submission

/-! ## Writing -/

/-- An octet that is written as it is: a letter, a digit, or one of four marks. -/
def isUnreserved (octet : UInt8) : Bool :=
  let c := Char.ofNat octet.toNat
  c.isAlphanum || c ∈ ['-', '.', '_', '~']

/-- A hexadecimal digit, in upper or lower case. -/
def digitIn (upper : Bool) (n : Nat) : Char :=
  if upper then (hexDigit n).toUpper else hexDigit n

/-- The characters written for one octet. -/
def encodeOctet (upper : Bool) (octet : UInt8) : List Char :=
  if octet = 0x20 then ['+']
  else if isUnreserved octet then [Char.ofNat octet.toNat]
  else ['%', digitIn upper (octet.toNat / 16), digitIn upper (octet.toNat % 16)]

/-- A key or a value as it is written in a body. -/
def encodeComponent (upper : Bool) (text : String) : String :=
  String.ofList ((Text.Utf8.encode text).flatMap (encodeOctet upper))

/-- A pair as it is written in a body. -/
def encodePair (upper : Bool) (pair : String × String) : String :=
  encodeComponent upper pair.1 ++ "=" ++ encodeComponent upper pair.2

/-- The body in which pairs are written, with ampersands between them. -/
def encodeBody (upper : Bool) (pairs : List (String × String)) : String :=
  Text.joinWith "&" (pairs.map (encodePair upper))

/-! ## Octets -/

/-- A digit is read as its value, and is none of the signs. -/
theorem digitIn_read (upper : Bool) {n : Nat} (small : n < 16) :
    hexValue? (digitIn upper n) = some n ∧ (digitIn upper n).toNat < 128 ∧
      digitIn upper n ∉ ['+', '&', '='] := by
  revert n upper
  decide

/-- An octet that is written as it is stands for the ASCII character of its number, which is
none of the signs. -/
theorem unreserved_apart {octet : UInt8} (unreserved : isUnreserved octet = true) :
    octet.toNat < 128 ∧ (Char.ofNat octet.toNat).toNat = octet.toNat ∧
      Char.ofNat octet.toNat ∉ ['+', '&', '=', '%'] := by
  have all : ∀ n < 256, isUnreserved (.ofNat n) = true →
      n < 128 ∧ (Char.ofNat n).toNat = n ∧ Char.ofNat n ∉ ['+', '&', '=', '%'] := by
    decide +kernel
  refine all octet.toNat octet.toNat_lt ?_
  rwa [UInt8.ofNat_toNat]

/-- What is written for an octet holds no sign that divides a body. -/
theorem mem_encodeOctet {upper : Bool} {octet : UInt8} {c : Char}
    (member : c ∈ encodeOctet upper octet) : c.toNat < 128 ∧ c ≠ '&' ∧ c ≠ '=' := by
  have bound := octet.toNat_lt
  have digit {n : Nat} (small : n < 16) : (digitIn upper n).toNat < 128 ∧
      digitIn upper n ≠ '&' ∧ digitIn upper n ≠ '=' := by
    obtain ⟨-, ascii, apart⟩ := digitIn_read upper small
    exact ⟨ascii, fun same => apart (by simp [same]), fun same => apart (by simp [same])⟩
  unfold encodeOctet at member
  split at member
  · obtain rfl := List.mem_singleton.mp member
    decide
  split at member
  · rename_i unreserved
    obtain rfl := List.mem_singleton.mp member
    obtain ⟨ascii, code, apart⟩ := unreserved_apart unreserved
    exact ⟨by rwa [code], fun same => apart (by simp [same]), fun same => apart (by simp [same])⟩
  · rcases List.mem_cons.mp member with rfl | digits
    · decide
    · rcases List.mem_pair.mp digits with rfl | rfl
      · exact digit (by omega)
      · exact digit (by omega)

/-! ## Reading -/

/-- An octet that is no percent sign stands for itself. -/
theorem percentDecode_cons {octet : UInt8} (apart : octet ≠ 0x25) (rest : List UInt8) :
    percentDecode (octet :: rest) = octet :: percentDecode rest := by
  match rest with
  | [] => rfl
  | [_] => rfl
  | second :: third :: others =>
    rw [percentDecode]
    split
    · rw [if_neg apart]
    · rfl

/-- A percent sign and two digits stand for one octet. -/
theorem percentDecode_digits {first second : UInt8} {octet : UInt8}
    (high : hexValue? (Char.ofNat first.toNat) = some (octet.toNat / 16))
    (low : hexValue? (Char.ofNat second.toNat) = some (octet.toNat % 16)) (rest : List UInt8) :
    percentDecode (0x25 :: first :: second :: rest) = octet :: percentDecode rest := by
  rw [percentDecode, high, low]
  dsimp only
  rw [if_pos rfl, Nat.div_add_mod, UInt8.ofNat_toNat]

/-- The octets of written characters, with spaces for plus signs. -/
def spaced (chars : List Char) : List UInt8 :=
  (chars.flatMap String.utf8EncodeChar).map fun octet => if octet = 0x2B then 0x20 else octet

/-- An ASCII character is one octet, which stays unless it is a plus sign. -/
theorem spaced_cons {c : Char} (ascii : c.toNat < 128) (apart : c ≠ '+') (rest : List Char) :
    spaced (c :: rest) = .ofNat c.toNat :: spaced rest := by
  have octet : String.utf8EncodeChar c = [.ofNat c.toNat] :=
    (Text.Utf8.encodeChar_eq c).trans (if_pos (by omega))
  have other : UInt8.ofNat c.toNat ≠ 0x2B := by
    intro same
    have code : c.toNat = 43 := by
      rw [← Text.Utf8.toNat_octet (n := c.toNat) (by omega), same]
      rfl
    exact apart (Char.toNat_inj.mp code)
  rw [spaced, List.flatMap_cons, octet, List.singleton_append, List.map_cons, if_neg other, spaced]

/-- What is written for an octet is read as the octet. -/
theorem percentDecode_encodeOctet (upper : Bool) (octet : UInt8) (rest : List Char) :
    percentDecode (spaced (encodeOctet upper octet ++ rest)) =
      octet :: percentDecode (spaced rest) := by
  have bound := octet.toNat_lt
  unfold encodeOctet
  split
  · rename_i space
    have blank : spaced (['+'] ++ rest) = 0x20 :: spaced rest := rfl
    rw [blank, percentDecode_cons (by decide), space]
  split
  · rename_i unreserved
    obtain ⟨ascii, code, apart⟩ := unreserved_apart unreserved
    have percent : octet ≠ 0x25 := by
      rintro rfl
      exact apart (by decide)
    rw [List.singleton_append, spaced_cons (by rwa [code]) (fun same => apart (by simp [same])),
      code, UInt8.ofNat_toNat, percentDecode_cons percent]
  · have digit {n : Nat} (small : n < 16) (rest : List Char) :
        spaced (digitIn upper n :: rest) = .ofNat (digitIn upper n).toNat :: spaced rest := by
      obtain ⟨-, ascii, apart⟩ := digitIn_read upper small
      exact spaced_cons ascii (fun same => apart (by simp [same])) rest
    have read {n : Nat} (small : n < 16) :
        hexValue? (Char.ofNat (UInt8.ofNat (digitIn upper n).toNat).toNat) = some n := by
      obtain ⟨value, ascii, -⟩ := digitIn_read upper small
      rw [Text.Utf8.toNat_octet (by omega), Char.ofNat_toNat, value]
    have sign (rest : List Char) : spaced ('%' :: rest) = 0x25 :: spaced rest := rfl
    rw [List.cons_append, List.cons_append, List.singleton_append, sign, digit (by omega),
      digit (by omega), percentDecode_digits (read (by omega)) (read (by omega))]

/-- A key or a value is read as it was before it was written. -/
theorem decodeComponent_encodeComponent (upper : Bool) (text : String) :
    decodeComponent (encodeComponent upper text) = text := by
  have octets (written : List UInt8) :
      percentDecode (spaced (written.flatMap (encodeOctet upper))) = written := by
    induction written with
    | nil => rfl
    | cons octet rest inductionHypothesis =>
      rw [List.flatMap_cons, percentDecode_encodeOctet, inductionHypothesis]
  have read := octets (Text.Utf8.encode text)
  unfold decodeComponent encodeComponent
  dsimp only
  rw [Text.Utf8.encode, String.toList_ofList]
  unfold spaced at read
  rw [read, Text.Utf8.decodeLenient_encode]

/-- No sign that divides a body is written for a key or a value. -/
theorem mem_encodeComponent {upper : Bool} {text : String} {c : Char}
    (member : c ∈ (encodeComponent upper text).toList) : c ≠ '&' ∧ c ≠ '=' := by
  rw [encodeComponent, String.toList_ofList] at member
  obtain ⟨octet, -, written⟩ := List.mem_flatMap.mp member
  exact (mem_encodeOctet written).2

/-- A pair is read as it was before it was written: the first equals sign is the one between
key and value. -/
theorem pairOf_encodePair (upper : Bool) (pair : String × String) :
    pairOf (encodePair upper pair).toList = pair := by
  have chars : (encodePair upper pair).toList =
      (encodeComponent upper pair.1).toList ++ '=' :: (encodeComponent upper pair.2).toList := by
    simp [encodePair]
  have key : ∀ c ∈ (encodeComponent upper pair.1).toList, decide (c ≠ '=') = true :=
    fun c member => decide_eq_true (mem_encodeComponent member).2
  rw [pairOf, chars, List.takeWhile_append_of_pos key, List.dropWhile_append_of_pos key]
  simp [decodeComponent_encodeComponent]

/-- No ampersand is written within a pair, and a pair is never written as nothing. -/
theorem encodePair_piece (upper : Bool) (pair : String × String) :
    '&' ∉ (encodePair upper pair).toList ∧ (encodePair upper pair).toList ≠ [] := by
  have key : '&' ∉ (encodeComponent upper pair.1).toList :=
    fun member => (mem_encodeComponent member).1 rfl
  have value : '&' ∉ (encodeComponent upper pair.2).toList :=
    fun member => (mem_encodeComponent member).1 rfl
  simp [encodePair, key, value]

/-- The body that was written for pairs is read as the pairs, filed in order. -/
theorem parse_encodeBody (upper : Bool) (pairs : List (String × String)) :
    parse (encodeBody upper pairs) = ofPairs pairs := by
  by_cases some_ : pairs = []
  · rw [some_]
    rfl
  · have texts : pairs.map (encodePair upper) ≠ [] := by simpa using some_
    have apart : ∀ text ∈ pairs.map (encodePair upper), '&' ∉ text.toList := by
      intro text member
      obtain ⟨pair, -, rfl⟩ := List.mem_map.mp member
      exact (encodePair_piece upper pair).1
    have pieces : Text.splitChars '&' (encodeBody upper pairs).toList =
        (pairs.map (encodePair upper)).map String.toList :=
      (Text.splitChars_toList '&' _).trans (congrArg _ (Text.split_joined texts apart))
    have kept : ((pairs.map (encodePair upper)).map String.toList).filter (· ≠ []) =
        (pairs.map (encodePair upper)).map String.toList := by
      rw [List.filter_eq_self]
      intro piece member
      obtain ⟨text, written, rfl⟩ := List.mem_map.mp member
      obtain ⟨pair, -, rfl⟩ := List.mem_map.mp written
      exact decide_eq_true (encodePair_piece upper pair).2
    have read : ((pairs.map (encodePair upper)).map String.toList).map pairOf = pairs := by
      rw [List.map_map, List.map_map]
      exact (List.map_congr_left fun pair _ => pairOf_encodePair upper pair).trans (List.map_id _)
    rw [parse, pieces, kept, read]

/-- Both roots of a request hold the same, and nothing only where there are no pairs. -/
theorem roots_alike (pairs : List (String × String)) :
    (ofPairs pairs).get? [pageRoot] = (ofPairs pairs).get? [databaseRoot] ∧
      ((ofPairs pairs).get? [pageRoot] = none ↔ pairs = []) := by
  have looked (root : String) : (ofPairs pairs).get? [root] = (ofPairs pairs).roots.get? root := rfl
  rw [looked, looked]
  rcases ofPairs_roots pairs with ⟨rfl, none⟩ | ⟨some_, both⟩
  · rw [none]
    exact ⟨rfl, iff_of_true rfl rfl⟩
  · rw [both]
    exact ⟨rfl, iff_of_false (Option.some_ne_none _) some_⟩

/-- Bodies are read back, and both roots are alike. The body that is written for pairs, with
digits in either case, is read as the pairs. Whatever was posted, both roots hold the same,
which is nothing only where there are no pairs: for a body, where nothing stands in it but
ampersands.

Proof: each sign that was put in divides where it was put in, since what is written for keys
and values holds none; octets are read one by one as what they were written for. The roots
are alike because every pair is filed under both. -/
theorem bodies_read_back :
    (∀ upper pairs, parse (encodeBody upper pairs) = ofPairs pairs) ∧
    (∀ pairs, (ofPairs pairs).get? [pageRoot] = (ofPairs pairs).get? [databaseRoot] ∧
      ((ofPairs pairs).get? [pageRoot] = none ↔ pairs = [])) ∧
    ∀ body, (parse body).get? [pageRoot] = (parse body).get? [databaseRoot] ∧
      ((parse body).get? [pageRoot] = none ↔ ∀ c ∈ body.toList, c = '&') := by
  refine ⟨parse_encodeBody, roots_alike, fun body => ?_⟩
  obtain ⟨alike, nothing⟩ :=
    roots_alike (((Text.splitChars '&' body.toList).filter (· ≠ [])).map pairOf)
  refine ⟨alike, nothing.trans ?_⟩
  rw [List.map_eq_nil_iff, List.filter_eq_nil_iff, ← Text.splitChars_empty_iff]
  simp

/-- Keys and values with signs, brackets and letters beyond ASCII, an empty key among them. -/
example : encodeBody true [("name[r1]", "Ada & Zoë"), ("", "1+1=2")] =
    "name%5Br1%5D=Ada+%26+Zo%C3%AB&=1%2B1%3D2" := by decide

end Submission

end Formwork
