import Formwork.Json.Printer
import Formwork.Json.Reader

/-!
# Written documents read back

A document without numbers is read from its own text exactly as it was written.
Whatever is saved of a form is such a document: texts, truth values, lists and
objects. The reader takes one character at a time, so the law is stated for a
reader anywhere inside an open document: after the characters of a value it
holds that value, with everything around it still open as before.

Numbers are left out. Their text is decided by rounding, which has its own laws.
-/

namespace Formwork.Json

mutual

/-- The document holds no number, and every text in it is one. -/
def isNumberless : Json → Bool
  | .int _ | .float _ | .unpaired => false
  | .array items => itemsNumberless items
  | .object members => membersNumberless members
  | _ => true

/-- No item holds a number. -/
def itemsNumberless : List Json → Bool
  | [] => true
  | item :: rest => item.isNumberless && itemsNumberless rest

/-- No member holds a number. -/
def membersNumberless : Entries Json → Bool
  | [] => true
  | (_, value) :: rest => value.isNumberless && membersNumberless rest

end

/-- A list is without numbers when each item is. -/
theorem itemsNumberless_iff (items : List Json) :
    itemsNumberless items = true ↔ ∀ item ∈ items, item.isNumberless = true := by
  induction items with
  | nil => simp [itemsNumberless]
  | cons item rest inductionHypothesis => simp [itemsNumberless, inductionHypothesis]

/-- Members are without numbers when each value is. -/
theorem membersNumberless_iff (members : Entries Json) :
    membersNumberless members = true ↔ ∀ member ∈ members, member.2.isNumberless = true := by
  induction members with
  | nil => simp [membersNumberless]
  | cons member rest inductionHypothesis =>
    obtain ⟨name, value⟩ := member
    simp [membersNumberless, inductionHypothesis]

/-! ## Texts -/

/-- Reads characters one after another. -/
def Reader.take (reader : Reader) (chars : List Char) : Option Reader :=
  chars.foldlM Reader.step reader

/-- Nothing read, nothing changed. -/
@[simp] theorem take_nil (reader : Reader) : reader.take [] = some reader := rfl

/-- The first character decides where the others are read from. -/
@[simp] theorem take_cons (reader : Reader) (c : Char) (rest : List Char) :
    reader.take (c :: rest) = (reader.step c).bind fun next => next.take rest := by
  simp [Reader.take, List.foldlM_cons]

/-- Reading may stop and go on anywhere. -/
theorem take_append (reader : Reader) (front behind : List Char) :
    reader.take (front ++ behind) = (reader.take front).bind fun next => next.take behind := by
  simp [Reader.take, List.foldlM_append]

/-- The value of each digit is read back. -/
theorem hexValue_hexDigit (value : Nat) (small : value < 16) :
    Text.hexValue? (Text.hexDigit value) = some value := by
  have all : ∀ digit : Fin 16, Text.hexValue? (Text.hexDigit digit) = some digit.val := by decide
  exact all ⟨value, small⟩

/-- A control character is read back from its code. -/
theorem take_code (frames : List Frame) (name : Option (List Member)) (reversed : List Piece)
    (c : Char) (control : c.toNat < 0x20) :
    Reader.take ⟨frames, .text name reversed .plain⟩
        ['\\', 'u', '0', '0', Text.hexDigit (c.toNat / 16), Text.hexDigit (c.toNat % 16)] =
      some ⟨frames, .text name (.char c :: reversed) .plain⟩ := by
  have high := hexValue_hexDigit (c.toNat / 16) (by omega)
  have low := hexValue_hexDigit (c.toNat % 16) (by omega)
  have zero : Text.hexValue? '0' = some 0 := by decide
  have code : 16 * (c.toNat / 16) + c.toNat % 16 = c.toNat := by omega
  have whole : unit c.toNat = .char c := by
    have low : ¬ (0xD800 ≤ c.toNat ∧ c.toNat < 0xE000) := by omega
    simp [unit, low]
  simp [Reader.step, readTextChar, zero, high, low, code, whole]

/-- What is written for a character of a text is read back as that character. -/
theorem take_escapeChar (frames : List Frame) (name : Option (List Member))
    (reversed : List Piece) (c : Char) :
    Reader.take ⟨frames, .text name reversed .plain⟩ (escapeChar c) =
      some ⟨frames, .text name (.char c :: reversed) .plain⟩ := by
  unfold escapeChar
  split
  case h_8 quote backslash _ _ _ _ _ =>
    split
    · rename_i control
      exact take_code frames name reversed c control
    · rename_i shown
      have notQuote : c ≠ '"' := fun same => quote same
      have notBackslash : c ≠ '\\' := fun same => backslash same
      simp [Reader.step, readTextChar, notQuote, notBackslash, shown]
  all_goals simp [Reader.step, readTextChar, unescape?]

/-- The characters of a text are collected, the last one first. -/
theorem take_escaped (frames : List Frame) (name : Option (List Member))
    (reversed : List Piece) (cs : List Char) :
    Reader.take ⟨frames, .text name reversed .plain⟩ (cs.flatMap escapeChar) =
      some ⟨frames, .text name ((cs.map .char).reverse ++ reversed) .plain⟩ := by
  induction cs generalizing reversed with
  | nil => rfl
  | cons c rest inductionHypothesis =>
    rw [List.flatMap_cons, take_append, take_escapeChar, Option.bind_some, inductionHypothesis]
    simp

/-- Collected characters make up their text. -/
theorem textOf_chars (cs : List Char) :
    textOf? ((cs.map Piece.char).reverse) = some (String.ofList cs) := by
  have joined (behind : List Char) (reversed : List Char) :
      joinPieces? behind (reversed.map Piece.char) = some (reversed.reverse ++ behind) := by
    induction reversed generalizing behind with
    | nil => rfl
    | cons c before inductionHypothesis => simp [joinPieces?, inductionHypothesis]
  simp [textOf?, ← List.map_reverse, joined]

/-- Behind its opening quote a text is read up to its closing quote. -/
theorem take_text (frames : List Frame) (name : Option (List Member)) (text : String)
    (behind : List Char) :
    Reader.take ⟨frames, .text name [] .plain⟩ (text.toList.flatMap escapeChar ++ '"' :: behind) =
      Reader.take
        (match name with
          | none => Reader.leave frames (.string text)
          | some members => ⟨frames, .colon members (some text)⟩) behind := by
  rw [take_append, take_escaped, Option.bind_some, take_cons]
  cases name <;> simp [Reader.step, textOf_chars]

/-! ## Documents -/

/-- The reader holds a whole value, inside the given open lists and objects. A
literal is complete without being closed, which makes no difference to what follows. -/
def Reader.Holds (frames : List Frame) (value : Json) (reader : Reader) : Prop :=
  reader = ⟨frames, .done value⟩ ∨ reader = ⟨frames, .literal [] value⟩

/-- What follows a held value is read the same way, however the value ended. -/
theorem Reader.Holds.step {frames : List Frame} {value : Json} {reader : Reader}
    (held : Reader.Holds frames value reader) (c : Char) :
    reader.step c = afterValue frames value c := by
  rcases held with rfl | rfl <;> rfl

/-- A held value that nothing encloses is the document. -/
theorem Reader.Holds.finish {value : Json} {reader : Reader}
    (held : Reader.Holds [] value reader) : reader.finish = some value := by
  rcases held with rfl | rfl <;> rfl

/-- The members read of an object, in the form the reader keeps them. -/
def namedMembers (members : Entries Json) : List Member :=
  members.map fun member => (some member.1, member.2)

/-- An object whose names are all texts has these names. -/
theorem objectOf_named (members : Entries Json) :
    objectOf (namedMembers members).reverse = .object members := by
  have collected : (namedMembers members).mapM
      (fun member : Member => member.1.map (·, member.2)) = some members := by
    induction members with
    | nil => rfl
    | cons member rest inductionHypothesis =>
      simp only [namedMembers, List.map_cons, List.mapM_cons] at inductionHypothesis ⊢
      simp [inductionHypothesis]
  simp [objectOf, collected]

/-- The first character of a document begins a value, also where the list or
object around it might end instead. -/
theorem take_chars_first (json : Json) (proper : json.isNumberless = true)
    (frames : List Frame) (behind : List Char) :
    Reader.take ⟨frames, .firstItem⟩ (json.chars ++ behind) =
      Reader.take ⟨frames, .value⟩ (json.chars ++ behind) := by
  cases json with
  | int n => simp [isNumberless] at proper
  | float x => simp [isNumberless] at proper
  | unpaired => simp [isNumberless] at proper
  | bool value => cases value <;> rfl
  | _ => rfl

mutual

/-- Behind the characters of a value the reader holds the value. -/
theorem take_chars (json : Json) (proper : json.isNumberless = true) (frames : List Frame) :
    ∃ reader, Reader.take ⟨frames, .value⟩ json.chars = some reader ∧
      Reader.Holds frames json reader := by
  cases json with
  | null => exact ⟨_, rfl, .inr rfl⟩
  | bool value => cases value <;> exact ⟨_, rfl, .inr rfl⟩
  | int n => simp [isNumberless] at proper
  | float x => simp [isNumberless] at proper
  | unpaired => simp [isNumberless] at proper
  | string text =>
    refine ⟨Reader.leave frames (.string text), ?_, .inl rfl⟩
    have opened : Reader.take ⟨frames, .value⟩ (stringChars text) =
        Reader.take ⟨frames, .text none [] .plain⟩ (text.toList.flatMap escapeChar ++ ['"']) := by
      simp [stringChars, Reader.step, Reader.startValue, isSpace]
    change Reader.take ⟨frames, .value⟩ (stringChars text) = _
    rw [opened, take_text, take_nil]
  | array items =>
    refine ⟨Reader.leave frames (.array items), ?_, .inl rfl⟩
    have opened : Reader.take ⟨frames, .value⟩ (chars (.array items)) =
        Reader.take ⟨.items [] :: frames, .firstItem⟩ (itemChars items ++ [']']) := rfl
    rw [opened]
    cases items with
    | nil => rfl
    | cons item rest =>
      have all : itemsNumberless (item :: rest) = true := by
        simpa only [isNumberless] using proper
      have begins : Reader.take ⟨.items [] :: frames, .firstItem⟩
            (itemChars (item :: rest) ++ [']']) =
          Reader.take ⟨.items [] :: frames, .value⟩ (itemChars (item :: rest) ++ [']']) := by
        have first : item.isNumberless = true := by
          simp only [itemsNumberless, Bool.and_eq_true] at all
          exact all.1
        cases rest with
        | nil => exact take_chars_first item first _ _
        | cons next others =>
          simp only [itemChars, List.append_assoc]
          exact take_chars_first item first _ _
      rw [begins]
      exact take_items (item :: rest) all (by simp) [] frames
  | object members =>
    refine ⟨Reader.leave frames (.object members), ?_, .inl rfl⟩
    have all : membersNumberless members = true := by simpa only [isNumberless] using proper
    have opened : Reader.take ⟨frames, .value⟩ (chars (.object members)) =
        Reader.take ⟨frames, .firstName⟩ (memberChars members ++ ['\x7d']) := rfl
    rw [opened]
    cases members with
    | nil => rfl
    | cons member rest =>
      obtain ⟨name, value⟩ := member
      have begins : Reader.take ⟨frames, .firstName⟩
            (memberChars ((name, value) :: rest) ++ ['\x7d']) =
          Reader.take ⟨frames, .nextName []⟩
            (memberChars ((name, value) :: rest) ++ ['\x7d']) := by
        cases rest <;> rfl
      rw [begins, ← objectOf_named]
      simpa using take_members ((name, value) :: rest) all (by simp) [] frames

/-- The items of an open list are collected behind those already read, and the
closing bracket ends the list. -/
theorem take_items (items : List Json) (proper : itemsNumberless items = true)
    (given : items ≠ []) (reversed : List Json) (frames : List Frame) :
    Reader.take ⟨.items reversed :: frames, .value⟩ (itemChars items ++ [']']) =
      some (Reader.leave frames (.array (reversed.reverse ++ items))) := by
  cases items with
  | nil => exact absurd rfl given
  | cons item rest =>
    simp only [itemsNumberless, Bool.and_eq_true] at proper
    obtain ⟨reader, read, held⟩ := take_chars item proper.1 (.items reversed :: frames)
    cases rest with
    | nil =>
      have closed : reader.step ']' =
          some (Reader.leave frames (.array (item :: reversed).reverse)) := held.step ']'
      simp [itemChars, take_append, read, closed]
    | cons next others =>
      have separated : reader.step ',' =
          some ⟨.items (item :: reversed) :: frames, .value⟩ := held.step ','
      have later := take_items (next :: others) proper.2 (by simp) (item :: reversed) frames
      have pieces : itemChars (item :: next :: others) ++ [']'] =
          item.chars ++ ',' :: (itemChars (next :: others) ++ [']']) := by simp [itemChars]
      rw [pieces, take_append, read, Option.bind_some, take_cons, separated, Option.bind_some, later]
      simp

/-- The members of an open object are collected behind those already read, and
the closing brace ends the object. -/
theorem take_members (members : Entries Json) (proper : membersNumberless members = true)
    (given : members ≠ []) (reversed : List Member) (frames : List Frame) :
    Reader.take ⟨frames, .nextName reversed⟩ (memberChars members ++ ['\x7d']) =
      some (Reader.leave frames (objectOf ((namedMembers members).reverse ++ reversed))) := by
  cases members with
  | nil => exact absurd rfl given
  | cons member rest =>
    obtain ⟨name, value⟩ := member
    simp only [membersNumberless, Bool.and_eq_true] at proper
    obtain ⟨reader, read, held⟩ := take_chars value proper.1 (.members reversed (some name) :: frames)
    have named (behind : List Char) :
        Reader.take ⟨frames, .nextName reversed⟩ (stringChars name ++ ':' :: behind) =
          Reader.take ⟨.members reversed (some name) :: frames, .value⟩ behind := by
      have opened : Reader.take ⟨frames, .nextName reversed⟩ (stringChars name ++ ':' :: behind) =
          Reader.take ⟨frames, .text (some reversed) [] .plain⟩
            (name.toList.flatMap escapeChar ++ '"' :: ':' :: behind) := by
        simp [stringChars, Reader.step, isSpace]
      rw [opened, take_text]
      rfl
    cases rest with
    | nil =>
      have closed : reader.step '\x7d' =
          some (Reader.leave frames (objectOf ((some name, value) :: reversed))) := held.step '\x7d'
      simp only [memberChars, List.append_assoc, List.cons_append, named]
      simp [take_append, read, closed, namedMembers]
    | cons next others =>
      have separated : reader.step ',' =
          some ⟨frames, .nextName ((some name, value) :: reversed)⟩ := held.step ','
      have later := take_members (next :: others) proper.2 (by simp)
        ((some name, value) :: reversed) frames
      have pieces : memberChars ((name, value) :: next :: others) ++ ['\x7d'] =
          stringChars name ++ ':' :: (value.chars ++ ',' :: (memberChars (next :: others) ++ ['\x7d'])) := by
        simp [memberChars]
      rw [pieces, named, take_append, read, Option.bind_some, take_cons, separated,
        Option.bind_some, later]
      simp [namedMembers]

end

/-- A document without numbers is read from its own text. -/
theorem read_print (json : Json) (proper : json.isNumberless = true) :
    read? json.print = some json := by
  obtain ⟨reader, read, held⟩ := take_chars json proper []
  have folded : json.chars.foldlM Reader.step {} = some reader := read
  simp [read?, print, folded, held.finish]

end Formwork.Json
