import Formwork.Proofs.NothingLost
import Formwork.Proofs.SectionsInStep

/-!
# Texts put together from tags

A tag that is spelled with its own braces is read where it stands, whatever is around
it, as long as the braces in front of it belong to tags. So the tokens of a text that is
put together from tidy texts and spelled tags are known from its parts, and with them
its sections. The passes over sections leave a text without the tags they look for.
-/

namespace Formwork

open Text (isBlank)

/-- Tidy texts are tidy when they are joined. -/
theorem Text.Tidy.join {texts : List String} (each : ∀ text ∈ texts, Text.Tidy text) :
    Text.Tidy (String.join texts) := by
  induction texts with
  | nil => exact Plain.tidy (by decide : Text.Plain "")
  | cons text rest inductionHypothesis =>
    obtain ⟨here, others⟩ := List.forall_mem_cons.mp each
    rw [String.join_cons]
    exact here.append (inductionHypothesis others)

/-! ## Names in any case -/

namespace Text

/-- The characters of a name, in lower case. -/
def folded (name : String) : List Char := name.toList.map Char.toLower

/-- A name in lower case is put together from them. -/
theorem toList_toLower (name : String) : name.toLower.toList = folded name :=
  String.toList_map

/-- Two names are the same if these characters are. -/
theorem sameName_eq (left right : String) :
    sameName left right = decide (folded left = folded right) := by
  rw [sameName, Bool.eq_iff_iff, beq_iff_eq, decide_eq_true_eq, ← String.toList_inj,
    toList_toLower, toList_toLower]

/-- A name is none of a list if it is none in lower case. -/
theorem none_same {names : List String} {name : String}
    (apart : folded name ∉ names.map folded) : names.any (sameName name) = false := by
  rw [List.any_eq_false]
  intro other member same
  rw [sameName_eq, decide_eq_true_eq] at same
  exact apart (same ▸ List.mem_map_of_mem member)

end Text

/-! ## Spelled tags -/

namespace Tag

/-- The tag is what its source is read as. -/
def Spelled (mark : Tag) : Prop := Text.pieces mark.source = [.tag mark]

/-- The braces of a spelled tag are its own. -/
theorem Spelled.tidy {mark : Tag} (spelled : mark.Spelled) : Text.Tidy mark.source := by
  intro piece member
  rw [spelled, List.mem_singleton] at member
  rw [member]
  trivial

/-- The source of a spelled tag holds this tag. -/
theorem Spelled.marks {mark : Tag} (spelled : mark.Spelled) : Text.marks mark.source = [mark] := by
  rw [Text.marks, spelled]
  rfl

/-- A spelled tag begins with its own brace. -/
theorem Spelled.opens {mark : Tag} (spelled : mark.Spelled) :
    ∃ rest, mark.source.toList = '\x7b' :: rest := by
  rw [Spelled, Text.pieces] at spelled
  cases chars : mark.source.toList with
  | nil =>
    rw [chars] at spelled
    cases spelled
  | cons c rest =>
    by_cases same : c = '\x7b'
    · exact ⟨rest, congrArg (· :: rest) same⟩
    · rw [chars, Piece.scan_char (.inl same)] at spelled
      cases spelled

/-- The text is a name of tags. -/
def isName (name : String) : Bool :=
  match name.toList with
  | [] => false
  | first :: rest => startsName first && rest.all continuesName

/-- The opening tag of a name with the text behind the name. -/
def written (name given : String) : Tag where
  name := name
  attributeText := Text.trim given
  source := "\x7b" ++ name ++ given ++ "\x7d"

/-- The closing tag of a name. -/
def ended (name : String) : Tag where
  name := name
  closing := true
  attributeText := ""
  source := "\x7b/" ++ name ++ "\x7d"

/-- The closing tag of a name with the blanks behind the name. -/
def endedWith (name blanks : String) : Tag where
  name := name
  closing := true
  attributeText := ""
  source := "\x7b/" ++ name ++ blanks ++ "\x7d"

/-- Its key is its name, if that is in lower case. -/
theorem written_key {name : String} (lower : Text.folded name = name.toList) (given : String) :
    (written name given).key = name := by
  rw [← String.toList_inj, ← lower, ← Text.toList_toLower]
  rfl

/-- The key of the closing tag has a slash in front. -/
theorem ended_key {name : String} (lower : Text.folded name = name.toList) :
    (ended name).key = "/" ++ name := by
  have folded : name.toLower = name := by
    rw [← String.toList_inj, Text.toList_toLower, lower]
  exact congrArg ("/" ++ ·) folded

/-- Blanks end a name. -/
theorem continuesName_of_isBlank {c : Char} (blank : isBlank c = true) :
    continuesName c = false := by
  rw [Bool.eq_false_iff]
  intro continued
  simp only [isBlank, Text.CodeRanges.covers, Text.blankRanges, List.any_cons, List.any_nil,
    Bool.or_false, Bool.or_eq_true, Bool.and_eq_true, decide_eq_true_eq] at blank
  change (decide (65 ≤ c.val ∧ c.val ≤ 90) || (decide (97 ≤ c.val) && decide (c.val ≤ 122))
    || c == '_' || (decide (48 ≤ c.val) && decide (c.val ≤ 57))) = true at continued
  simp only [UInt32.le_iff_toNat_le, Bool.or_eq_true, beq_iff_eq, Bool.and_eq_true,
    decide_eq_true_eq] at continued
  change (((65 ≤ c.toNat ∧ c.toNat ≤ 90) ∨ (97 ≤ c.toNat ∧ c.toNat ≤ 122)) ∨ c = '_') ∨
    (48 ≤ c.toNat ∧ c.toNat ≤ 57) at continued
  rcases continued with ((upper | lower) | rfl) | digit
  · omega
  · omega
  · exact absurd blank (by decide)
  · omega

/-- All of a name are characters that go on with a name, and it begins like one. -/
theorem isName_spelled {name : String} (named : isName name = true) :
    ∃ first rest, name.toList = first :: rest ∧ startsName first = true ∧
      ∀ c ∈ first :: rest, continuesName c = true := by
  unfold isName at named
  split at named
  · cases named
  · next first rest spelled =>
    obtain ⟨starts, continued⟩ := Bool.and_eq_true_iff.mp named
    refine ⟨first, rest, spelled, starts, fun c member => ?_⟩
    rcases List.mem_cons.mp member with rfl | later
    · simp [continuesName, starts]
    · exact List.all_eq_true.mp continued c later

/-- What stands behind a name does not belong to it if it begins with a blank. -/
theorem name_stops {behind : List Char} (apart : behind.head?.all isBlank = true) :
    behind.takeWhile continuesName = [] ∧ behind.dropWhile continuesName = behind := by
  cases behind with
  | nil => exact ⟨rfl, rfl⟩
  | cons c rest => simp [@continuesName_of_isBlank c apart]

/-- A name with text behind it that begins with a blank is a tag body. -/
theorem ofBody?_written {name given : String} (named : isName name = true)
    (apart : given.toList.head?.all isBlank = true) :
    ofBody? (name.toList ++ given.toList) = some (written name given) := by
  obtain ⟨first, rest, spelled, starts, continued⟩ := isName_spelled named
  have slash : first ≠ '/' := by
    rintro rfl
    exact absurd starts (by decide)
  obtain ⟨taken, dropped⟩ := name_stops apart
  have same : name = String.ofList (first :: rest) := by
    rw [← spelled, String.ofList_toList]
  unfold ofBody?
  dsimp only
  have opens : ((name.toList ++ given.toList).head? == some '/') = false := by
    simp [spelled, slash]
  rw [opens, if_neg Bool.false_ne_true, spelled, List.takeWhile_append_of_pos continued,
    List.dropWhile_append_of_pos continued, taken, dropped, List.append_nil, apart]
  simp [starts, written, Text.trim, same, String.append_assoc]

/-- A name behind a slash is a tag body, with blanks behind it or without. -/
theorem ofBody?_endedWith {name blanks : String} (named : isName name = true)
    (blank : ∀ c ∈ blanks.toList, isBlank c = true) :
    ofBody? ('/' :: (name.toList ++ blanks.toList)) = some (endedWith name blanks) := by
  obtain ⟨first, rest, spelled, starts, continued⟩ := isName_spelled named
  have apart : blanks.toList.head?.all isBlank = true := by
    cases first : blanks.toList.head? with
    | none => rfl
    | some c => exact blank c (List.mem_of_head? first)
  obtain ⟨taken, dropped⟩ := name_stops apart
  have same : name = String.ofList (first :: rest) := by
    rw [← spelled, String.ofList_toList]
  have none : Text.trimChars blanks.toList = [] := by
    have all : (blanks.toList ++ []).dropWhile isBlank = [].dropWhile isBlank :=
      List.dropWhile_append_of_pos blank
    rw [List.append_nil] at all
    rw [Text.trimChars, all]
    rfl
  unfold ofBody?
  dsimp only
  rw [List.head?_cons, beq_self_eq_true, if_pos rfl, List.tail_cons, spelled,
    List.takeWhile_append_of_pos continued, List.dropWhile_append_of_pos continued, taken, dropped,
    List.append_nil, apart, none]
  have source : String.ofList (['\x7b'] ++ '/' :: (first :: rest ++ blanks.toList) ++ ['\x7d']) =
      "\x7b/" ++ name ++ blanks ++ "\x7d" := by
    simp [← String.toList_inj, spelled]
  simp only [List.head?_cons, Option.any_some, starts, ne_eq, not_true_eq_false, decide_false,
    Bool.and_false, Bool.not_false, Bool.and_true, if_true, source]
  rw [← same]
  rfl

/-- Without blanks it is the closing tag of the name. -/
theorem endedWith_empty (name : String) : endedWith name "" = ended name := by
  rw [endedWith, String.append_empty, ended]

/-- Names hold no brace. -/
theorem isName_plain {name : String} (named : isName name = true) : Text.Plain name := by
  obtain ⟨first, rest, spelled, -, continued⟩ := isName_spelled named
  intro c member
  rw [spelled] at member
  exact isPlain_of_continuesName (continued c member)

/-- An opening tag is spelled out. -/
theorem written_spelled {name given : String} (named : isName name = true)
    (apart : given.toList.head?.all isBlank = true) (plain : Text.Plain given) :
    (written name given).Spelled := by
  have inside : ∀ c ∈ name.toList ++ given.toList, isPlain c = true := by
    intro c member
    rcases List.mem_append.mp member with front | behind
    · exact isName_plain named c front
    · exact plain c behind
  have scanned := Piece.scan_tag inside (ofBody?_written named apart)
  have source : (written name given).source.toList =
      '\x7b' :: (name.toList ++ given.toList) ++ ['\x7d'] := by simp [written]
  rw [Spelled, Text.pieces, source]
  exact scanned

/-- Blanks may stand behind the name. -/
theorem written_spelled_of_blank {name spaces : String} (named : isName name = true)
    (blank : ∀ c ∈ spaces.toList, isBlank c = true) : (written name spaces).Spelled := by
  refine written_spelled named ?_ fun c member => Text.isPlain_of_isBlank (blank c member)
  cases first : spaces.toList.head? with
  | none => rfl
  | some c => exact blank c (List.mem_of_head? first)

/-- Nothing needs to stand behind it. -/
theorem bare_spelled {name : String} (named : isName name = true) : (written name "").Spelled :=
  written_spelled_of_blank named fun _ none => by cases none

/-- A closing tag is spelled out, with blanks behind its name or without. -/
theorem endedWith_spelled {name blanks : String} (named : isName name = true)
    (blank : ∀ c ∈ blanks.toList, isBlank c = true) : (endedWith name blanks).Spelled := by
  have inside : ∀ c ∈ '/' :: (name.toList ++ blanks.toList), isPlain c = true := by
    intro c member
    rcases List.mem_cons.mp member with rfl | later
    · decide
    · rcases List.mem_append.mp later with front | behind
      · exact isName_plain named c front
      · exact Text.isPlain_of_isBlank (blank c behind)
  have scanned := Piece.scan_tag inside (ofBody?_endedWith named blank)
  have source : (endedWith name blanks).source.toList =
      '\x7b' :: ('/' :: (name.toList ++ blanks.toList)) ++ ['\x7d'] := by
    simp [endedWith]
  rw [Spelled, Text.pieces, source]
  exact scanned

/-- So is one without. -/
theorem ended_spelled {name : String} (named : isName name = true) : (ended name).Spelled := by
  rw [← endedWith_empty]
  exact endedWith_spelled named fun _ none => by cases none

end Tag

namespace Tag

/-- The text of tags that stand one after another. -/
def sources (marks : List Tag) : String := String.join (marks.map source)

/-- If all are spelled, their braces are their own. -/
theorem sources_tidy {marks : List Tag} (spelled : ∀ mark ∈ marks, mark.Spelled) :
    Text.Tidy (sources marks) := by
  refine .join fun text member => ?_
  obtain ⟨mark, there, rfl⟩ := List.mem_map.mp member
  exact (spelled mark there).tidy

end Tag

/-! ## Blanks around a tag -/

namespace Text

/-- The text without blank characters in front. -/
def trimLeft (text : String) : String := String.ofList (text.toList.dropWhile isBlank)

/-- The text without blank characters at the end. -/
def trimRight (text : String) : String := String.ofList (dropBlankRight text.toList)

/-- A plain text is plain without the blanks in front. -/
theorem Plain.trimLeft {text : String} (plain : Plain text) : Plain (trimLeft text) := by
  intro c member
  rw [Text.trimLeft, String.toList_ofList] at member
  exact plain c ((List.dropWhile_sublist _).subset member)

/-- A plain text is plain without the blanks at the end. -/
theorem Plain.trimRight {text : String} (plain : Plain text) : Plain (trimRight text) := by
  intro c member
  rw [Text.trimRight, String.toList_ofList] at member
  obtain ⟨blanks, whole, -⟩ := dropBlankRight_append text.toList
  apply plain c
  rw [whole]
  exact List.mem_append_left _ member

/-- And without the blanks at both ends. -/
theorem Plain.trim {text : String} (plain : Plain text) : Plain (Text.trim text) := by
  intro c member
  rw [Text.trim, String.toList_ofList] at member
  exact plain c (mem_trimChars member)

/-- Blanks at the end are left out behind the last other character. -/
theorem dropBlankRight_keeps {c : Char} (kept : isBlank c = false) (front behind : List Char) :
    dropBlankRight (front ++ c :: behind) = front ++ c :: dropBlankRight behind := by
  induction front with
  | nil =>
    rw [List.nil_append, dropBlankRight]
    cases dropBlankRight behind with
    | nil => simp [kept]
    | cons other rest => rfl
  | cons other rest inductionHypothesis =>
    rw [List.cons_append, dropBlankRight, inductionHypothesis]
    cases rest with
    | nil => rfl
    | cons next others => rfl

/-- Blanks in front of a text that begins and ends otherwise are trimmed, and nothing else. -/
theorem trimChars_kept {blanks middle : List Char} {first last : Char}
    (blank : ∀ c ∈ blanks, isBlank c = true) (starts : isBlank first = false)
    (ends : isBlank last = false) :
    trimChars (blanks ++ first :: (middle ++ [last])) = first :: (middle ++ [last]) := by
  rw [trimChars, List.dropWhile_append_of_pos blank, List.dropWhile_cons_of_neg (by simp [starts])]
  exact dropBlankRight_keeps ends (first :: middle) []

/-- Trimming a text around a tag trims what is in front of it and what is behind. -/
theorem trim_around (before after : String) {mark : Tag} {body : List Char}
    (source : mark.source.toList = '\x7b' :: (body ++ ['\x7d'])) :
    trim (before ++ (mark.source ++ after)) =
      trimLeft before ++ (mark.source ++ trimRight after) := by
  have opens : isBlank '\x7b' = false := by decide
  have closes : isBlank '\x7d' = false := by decide
  have leading : (before.toList ++ (mark.source.toList ++ after.toList)).dropWhile isBlank =
      before.toList.dropWhile isBlank ++ (mark.source.toList ++ after.toList) := by
    rw [List.dropWhile_append]
    split
    · next none =>
      rw [List.isEmpty_iff.mp none, source, List.cons_append,
        List.dropWhile_cons_of_neg (by simp [opens])]
      rfl
    · rfl
  have trailing (front : List Char) :
      dropBlankRight (front ++ (mark.source.toList ++ after.toList)) =
        front ++ (mark.source.toList ++ dropBlankRight after.toList) := by
    have whole (chars : List Char) : front ++ (mark.source.toList ++ chars) =
        (front ++ '\x7b' :: body) ++ '\x7d' :: chars := by
      simp [source]
    rw [whole, dropBlankRight_keeps closes, whole]
  apply String.toList_inj.mp
  rw [trim, String.toList_ofList, trimChars, String.toList_append, String.toList_append, leading,
    trailing]
  simp [trimLeft, trimRight]

end Text

/-! ## An attribute in a tag -/

namespace Attributes

/-- Characters that belong to the pair read last are passed over. -/
theorem scanPairs_drop (covered : Nat) (chars : List Char) :
    scanPairs covered chars = scanPairs 0 (chars.drop covered) := by
  induction chars generalizing covered with
  | nil => cases covered <;> rfl
  | cons c rest inductionHypothesis =>
    cases covered with
    | zero => rfl
    | succ covered => exact inductionHypothesis covered

/-- A pair is read as it is written, if its value holds no quotation mark, and reading goes on
behind it. -/
theorem scanPairs_pair {first : Char} {more value : List Char} (starts : startsName first = true)
    (continued : ∀ c ∈ more, continuesName c = true) (unquoted : '"' ∉ value)
    (rest : List Char) :
    scanPairs 0 (first :: (more ++ '=' :: '"' :: (value ++ '"' :: rest))) =
      (String.ofList (first :: more), String.ofList value) :: scanPairs 0 rest := by
  have stops : continuesName '=' = false := by decide
  have name (behind : List Char) : (more ++ '=' :: behind).takeWhile continuesName = more ∧
      (more ++ '=' :: behind).dropWhile continuesName = '=' :: behind := by
    rw [List.takeWhile_append_of_pos continued, List.dropWhile_append_of_pos continued]
    simp [stops]
  have quoted : quotedValue? ('=' :: '"' :: (value ++ '"' :: rest)) =
      some (value, value.length + 3) := by
    have inside : ∀ c ∈ value, decide (c ≠ '"') = true := by
      intro c member
      exact decide_eq_true fun same => unquoted (same ▸ member)
    have sign : isBlank '=' = false := by decide
    have mark : isBlank '"' = false := by decide
    have taken : (value ++ '"' :: rest).takeWhile (fun c => decide (c ≠ '"')) = value := by
      rw [List.takeWhile_append_of_pos inside]
      simp
    unfold quotedValue?
    simp only [List.dropWhile_cons, sign, Bool.false_eq_true, if_false, mark, true_or, if_true,
      taken]
    simp [sign, mark]
  have behind : (more ++ '=' :: '"' :: (value ++ '"' :: rest)).drop
      (more.length + (value.length + 3)) = rest := by
    rw [← List.drop_drop, List.drop_left]
    simp
  obtain ⟨taken, dropped⟩ := name ('"' :: (value ++ '"' :: rest))
  rw [scanPairs, if_pos starts, taken, dropped, quoted]
  dsimp only
  rw [scanPairs_drop, behind]

/-- A pair alone is read as it is written, if its value holds no quotation mark. -/
theorem parse_pair (name value : String) {first : Char} {rest : List Char}
    (spelled : name.toList = first :: rest) (starts : startsName first = true)
    (continued : ∀ c ∈ rest, continuesName c = true) (unquoted : '"' ∉ value.toList) :
    parse (name ++ "=\"" ++ value ++ "\"") = ⟨[(name, value)]⟩ := by
  have chars : (name ++ "=\"" ++ value ++ "\"").toList =
      first :: (rest ++ '=' :: '"' :: (value.toList ++ ['"'])) := by
    simp [spelled]
  rw [parse, chars, scanPairs_pair starts continued unquoted, ← spelled, String.ofList_toList,
    String.ofList_toList]
  rfl

end Attributes

namespace Tag

/-- The field tag with a name and nothing else. -/
def naming (name : String) : Tag := written "field" (" name=\"" ++ name ++ "\"")

/-- Text for a name is trimmed to what stands behind the blanks in front. -/
theorem trim_name {blanks : String} (blank : ∀ c ∈ blanks.toList, isBlank c = true)
    (name : String) :
    Text.trim (blanks ++ ("name=\"" ++ name ++ "\"")) = "name=\"" ++ name ++ "\"" := by
  have kept : Text.trimChars (blanks.toList ++ 'n' :: ("ame=\"".toList ++ name.toList ++ ['"'])) =
      'n' :: ("ame=\"".toList ++ name.toList ++ ['"']) :=
    Text.trimChars_kept blank (by decide) (by decide)
  apply String.toList_inj.mp
  rw [Text.trim, String.toList_ofList]
  simpa using kept

/-- It says its name without blanks around it. -/
theorem naming_attributeText (name : String) :
    (naming name).attributeText = "name=\"" ++ name ++ "\"" := by
  have spaced : " name=\"" ++ name ++ "\"" = " " ++ ("name=\"" ++ name ++ "\"") := by
    simp [← String.toList_inj]
  unfold naming written
  dsimp only
  rw [spaced]
  exact trim_name (List.all_eq_true.mp (by decide)) name

/-- It is spelled out, unless a brace stands in the name. -/
theorem naming_spelled {name : String} (plain : Text.Plain name) : (naming name).Spelled := by
  apply written_spelled
  · decide
  · simp +decide
  · simp +decide [plain]

/-- It is read with this name, unless a quotation mark stands in it. -/
theorem naming_attributes {name : String} (unquoted : '"' ∉ name.toList) :
    (naming name).attributes = ⟨[("name", name)]⟩ := by
  rw [Tag.attributes, naming_attributeText]
  exact Attributes.parse_pair "name" name rfl (by decide) (List.all_eq_true.mp (by decide)) unquoted

/-- Blanks behind the name of a tag say nothing. -/
theorem written_attributes {spaces : String} (blank : ∀ c ∈ spaces.toList, isBlank c = true)
    (name : String) : (written name spaces).attributes = .empty := by
  have trimmed : Text.trim spaces = "" := by
    have dropped : (spaces.toList ++ []).dropWhile isBlank = [] :=
      List.dropWhile_append_of_pos blank
    rw [List.append_nil] at dropped
    rw [Text.trim, Text.trimChars, dropped]
    rfl
  rw [Tag.attributes, written, trimmed]
  rfl

/-- A field tag without attributes that is given a name says nothing else. -/
theorem withAttributes_naming {spaces : String} (blank : ∀ c ∈ spaces.toList, isBlank c = true)
    (name : String) :
    (written "field" spaces).withAttributes ((written "field" spaces).attributes.set "name" name) =
      naming name := by
  have source : (Attributes.empty.set "name" name).toSource = "name=\"" ++ name ++ "\"" := by
    simp [Attributes.toSource, Attributes.set, Attributes.empty, Attributes.setPair, Text.joinWith]
  have kept := @trim_name "" (List.all_eq_true.mp (by decide)) name
  rw [String.empty_append] at kept
  have filled : "name=\"" ++ name ++ "\"" ≠ "" := by
    simp [← String.toList_inj]
  rw [written_attributes blank, withAttributes, source, opening, kept, if_neg filled]
  have text := naming_attributeText name
  unfold naming written at text ⊢
  dsimp only at text ⊢
  rw [text]
  congr 1

end Tag

/-! ## Tokens of texts put together -/

namespace Token

/-- Texts end where a tag begins. -/
theorem group_append_tag (reversed : List Char) (pieces behind : List Piece) (mark : Tag) :
    group reversed (pieces ++ .tag mark :: behind) =
      group reversed pieces ++ .tag mark :: group [] behind := by
  induction pieces generalizing reversed with
  | nil => rfl
  | cons piece rest inductionHypothesis =>
    cases piece with
    | char c => exact inductionHypothesis (c :: reversed)
    | tag other =>
      rw [List.cons_append, group, group, inductionHypothesis, List.append_assoc, List.cons_append]

/-- A spelled tag is one token, and what is around it is read for itself: since it opens a brace of
its own, no tag reaches into it. -/
theorem tokenize_tag (front : String) {mark : Tag} (spelled : mark.Spelled) (behind : String) :
    tokenize (front ++ (mark.source ++ behind)) =
      tokenize front ++ .tag mark :: tokenize behind := by
  have pieces : Text.pieces (front ++ (mark.source ++ behind)) =
      Text.pieces front ++ .tag mark :: Text.pieces behind := by
    obtain ⟨rest, opens⟩ := spelled.opens
    have apart : Tag.ClosesNone (mark.source ++ behind).toList := by
      rw [String.toList_append, opens]
      exact .opened _
    rw [Text.pieces, String.toList_append, Piece.scan_append (.inr apart), Nat.zero_sub,
      ← Text.pieces, ← Text.pieces, Text.pieces_append spelled.tidy, spelled]
    rfl
  exact (congrArg (group []) pieces).trans (group_append_tag [] _ _ mark)

/-- A plain text holds text alone. -/
theorem tokenize_plain {text : String} (plain : Text.Plain text) :
    ∀ token ∈ tokenize text, ∃ content, token = .text content := by
  intro token member
  cases token with
  | text content => exact ⟨content, rfl⟩
  | tag mark =>
    have found : mark ∈ Text.marks text := by
      rw [← marks_tokenize]
      exact List.mem_filterMap.mpr ⟨.tag mark, member, rfl⟩
    rw [plain.marks] at found
    cases found

/-- A change of tags alone leaves a plain text. -/
theorem join_plain {text : String} (plain : Text.Plain text) {each : Token → String}
    (left : ∀ content, each (.text content) = content) :
    String.join ((tokenize text).map each) = text := by
  have same : (tokenize text).map each = (tokenize text).map source := by
    refine List.map_congr_left fun token member => ?_
    obtain ⟨content, rfl⟩ := tokenize_plain plain token member
    exact left content
  rw [same]
  exact sources_tokenize text

end Token

/-! ## Sections of texts put together -/

namespace Node

/-- A token as a node of its own. -/
def ofToken : Token → Node
  | .text content => .text content
  | .tag mark => .tag mark

/-- The nodes of a text in which no section is looked for. -/
def flat (text : String) : List Node := (Token.tokenize text).map ofToken

/-- The nodes stand for the text. -/
theorem sources_flat (text : String) : sources (flat text) = text := by
  have joined (tokens : List Token) : sources (tokens.map ofToken) = Token.sources tokens := by
    induction tokens with
    | nil => rfl
    | cons token rest inductionHypothesis =>
      rw [List.map_cons, sources, inductionHypothesis, Token.sources_cons]
      cases token <;> rfl
  rw [flat, joined, Token.sources_tokenize]

/-- No tag of the text has one of the names. -/
def Unnamed (names : List String) (text : String) : Prop :=
  ∀ mark ∈ Text.marks text, names.any mark.isNamed = false

/-- A plain text has no tags of any name. -/
theorem unnamed_of_plain {text : String} (plain : Text.Plain text) (names : List String) :
    Unnamed names text := by
  rw [Unnamed, plain.marks]
  exact fun _ none => by cases none

/-- Texts put together have the tags of both. -/
theorem Unnamed.append {names : List String} {left right : String} (tidy : Text.Tidy left)
    (first : Unnamed names left) (second : Unnamed names right) :
    Unnamed names (left ++ right) := by
  rw [Unnamed, Text.marks_append tidy]
  intro mark member
  rcases List.mem_append.mp member with before | behind
  · exact first mark before
  · exact second mark behind

/-- So do the texts of a list. -/
theorem Unnamed.join {names : List String} {texts : List String}
    (tidy : ∀ text ∈ texts, Text.Tidy text) (each : ∀ text ∈ texts, Unnamed names text) :
    Unnamed names (String.join texts) := by
  induction texts with
  | nil => exact unnamed_of_plain (by decide : Text.Plain "") names
  | cons text rest inductionHypothesis =>
    obtain ⟨tidy, tidy'⟩ := List.forall_mem_cons.mp tidy
    obtain ⟨here, others⟩ := List.forall_mem_cons.mp each
    rw [String.join_cons]
    exact here.append tidy (inductionHypothesis tidy' others)

/-- A spelled tag has no other name. -/
theorem unnamed_of_tag {names : List String} {mark : Tag} (spelled : mark.Spelled)
    (other : Text.folded mark.name ∉ names.map Text.folded) : Unnamed names mark.source := by
  rw [Unnamed, spelled.marks]
  intro same member
  rw [List.mem_singleton.mp member]
  exact Text.none_same other

/-- So an opening tag has the name that it is written with. -/
theorem unnamed_written {names : List String} {name given : String}
    (spelled : (Tag.written name given).Spelled)
    (other : Text.folded name ∉ names.map Text.folded) :
    Unnamed names (Tag.written name given).source :=
  unnamed_of_tag spelled other

/-- And so has a closing tag. -/
theorem unnamed_ended {names : List String} {name : String} (named : Tag.isName name = true)
    (other : Text.folded name ∉ names.map Text.folded) :
    Unnamed names (Tag.ended name).source :=
  unnamed_of_tag (Tag.ended_spelled named) other

/-- Nor have spelled tags that stand one after another. -/
theorem unnamed_of_tags {names : List String} {marks : List Tag}
    (spelled : ∀ mark ∈ marks, mark.Spelled)
    (others : ∀ mark ∈ marks, Text.folded mark.name ∉ names.map Text.folded) :
    Unnamed names (Tag.sources marks) := by
  refine .join (fun text member => ?_) fun text member => ?_
  · obtain ⟨mark, there, rfl⟩ := List.mem_map.mp member
    exact (spelled mark there).tidy
  · obtain ⟨mark, there, rfl⟩ := List.mem_map.mp member
    exact unnamed_of_tag (spelled mark there) (others mark there)

/-- Fewer names are looked for. -/
theorem Unnamed.mono {names fewer : List String} {text : String} (unnamed : Unnamed names text)
    (within : fewer ⊆ names) : Unnamed fewer text := by
  intro mark member
  rw [List.any_eq_false]
  intro name inside
  have none := unnamed mark member
  rw [List.any_eq_false] at none
  exact none name (within inside)

namespace Forest

/-- Nodes may be attached one after another. -/
theorem attach_attach (first second : List Node) (forest : Forest) :
    (forest.attach first).attach second = forest.attach (first ++ second) := by
  obtain ⟨pending, roots⟩ := forest
  cases pending with
  | nil => simp [attach]
  | cons frame rest => simp [attach]

/-- Tokens without the names are attached one after another. -/
theorem reads_unnamed {names : List String} {tokens : List Token}
    (unnamed : ∀ mark ∈ tokens.filterMap Token.mark?, names.any mark.isNamed = false)
    (forest : Forest) :
    tokens.foldl (read names) forest = forest.attach (tokens.map ofToken) := by
  induction tokens generalizing forest with
  | nil => exact (attach_nil forest).symm
  | cons token rest inductionHypothesis =>
    have here : forest.read names token = forest.attach [ofToken token] := by
      cases token with
      | text content => rfl
      | tag mark =>
        have none := unnamed mark List.mem_cons_self
        simp [read, none, ofToken]
    have others : ∀ mark ∈ rest.filterMap Token.mark?, names.any mark.isNamed = false := by
      intro mark member
      apply unnamed
      obtain ⟨token, there, same⟩ := List.mem_filterMap.mp member
      exact List.mem_filterMap.mpr ⟨token, List.mem_cons_of_mem _ there, same⟩
    rw [List.foldl_cons, here, inductionHypothesis others, attach_attach]
    rfl

end Forest

/-- A text without the names has no sections. -/
theorem parse_unnamed {names : List String} {text : String} (unnamed : Unnamed names text) :
    parse names text = flat text := by
  rw [Unnamed, ← Token.marks_tokenize] at unnamed
  unfold parse ofTokens
  rw [Forest.reads_unnamed unnamed]
  simp [Forest.attach, Forest.finish, flat]

/-- The two tags delimit a section of one of the names. -/
structure Delimits (names : List String) (opening closing : Tag) : Prop where
  /-- The opening tag is spelled. -/
  opens : opening.Spelled
  /-- So is the closing tag. -/
  closes : closing.Spelled
  /-- The opening tag is no closing tag. -/
  open_ : opening.closing = false
  /-- The closing tag is one. -/
  close_ : closing.closing = true
  /-- The opening tag is looked for. -/
  named : names.any opening.isNamed = true
  /-- So is the closing tag. -/
  ended : names.any closing.isNamed = true
  /-- They belong together. -/
  pairs : opening.isNamed closing.name = true

/-- The opening and the closing tag of a name delimit its sections. -/
theorem Delimits.of_name {name given : String} (named : Tag.isName name = true)
    (spelled : (Tag.written name given).Spelled) :
    Delimits [name] (Tag.written name given) (Tag.ended name) := by
  have same : Text.sameName name name = true := by simp [Text.sameName]
  have found : [name].any (Text.sameName name) = true := by simp [same]
  exact ⟨spelled, Tag.ended_spelled named, rfl, rfl, found, found, same⟩

/-- A section is found where its two tags stand, if no other tags are looked for. -/
theorem parse_section {names : List String} {opening closing : Tag}
    (delimits : Delimits names opening closing) {front inner behind : String}
    (before : Unnamed names front) (inside : Unnamed names inner) (after : Unnamed names behind) :
    parse names (front ++ (opening.source ++ (inner ++ (closing.source ++ behind)))) =
      flat front ++ .section opening (flat inner) closing :: flat behind := by
  rw [Unnamed, ← Token.marks_tokenize] at before inside after
  unfold parse ofTokens
  rw [Token.tokenize_tag front delimits.opens, Token.tokenize_tag inner delimits.closes,
    List.foldl_append, List.foldl_cons, List.foldl_append, List.foldl_cons,
    Forest.reads_unnamed before, Forest.reads_unnamed after]
  -- Between the two tags one frame is pending; what is read meanwhile becomes its children.
  have opened (roots : List Node) :
      Forest.read names { roots } (.tag opening) = { pending := [⟨opening, []⟩], roots } := by
    simp [Forest.read, delimits.named, delimits.open_]
  have closed (roots children : List Node) :
      Forest.read names { pending := [⟨opening, children⟩], roots } (.tag closing) =
        { roots := roots ++ [.section opening children closing] } := by
    simp [Forest.read, delimits.ended, delimits.close_, delimits.pairs, Forest.close, Forest.attach]
  have started :
      Forest.attach ((Token.tokenize front).map ofToken) {} = { roots := flat front } := by
    simp [Forest.attach, flat]
  rw [started, opened, Forest.reads_unnamed inside]
  have filled : Forest.attach ((Token.tokenize inner).map ofToken)
      { pending := [⟨opening, []⟩], roots := flat front } =
        { pending := [⟨opening, flat inner⟩], roots := flat front } := by
    simp [Forest.attach, flat]
  rw [filled, closed]
  simp [Forest.attach, Forest.finish, flat]

/-- What leaves the nodes of a text as they are leaves the text. -/
theorem flat_induction {change : List Node → String} {text : String}
    (none : change [] = "") (each : ∀ (token : Token) (rest : List Node),
      (∀ mark, token = .tag mark → mark ∈ Text.marks text) →
        change (ofToken token :: rest) = token.source ++ change rest) :
    change (flat text) = text := by
  suffices ∀ tokens : List Token, (∀ mark, .tag mark ∈ tokens → mark ∈ Text.marks text) →
      change (tokens.map ofToken) = Token.sources tokens by
    refine (this (Token.tokenize text) fun mark member => ?_).trans (Token.sources_tokenize text)
    rw [← Token.marks_tokenize]
    exact List.mem_filterMap.mpr ⟨_, member, rfl⟩
  intro tokens listed
  induction tokens with
  | nil => exact none
  | cons token rest inductionHypothesis =>
    rw [List.map_cons, Token.sources_cons, each token _ fun mark same => ?_,
      inductionHypothesis fun mark member => listed mark (List.mem_cons_of_mem _ member)]
    exact listed mark (same ▸ List.mem_cons_self)

/-- A text that does not ask for errors is left when errors are filled in. -/
theorem settleErrors_unnamed {text : String}
    (unnamed : Unnamed ["ifFormErrors", "formErrors"] text) (errors : String) :
    settleErrors errors text = text := by
  unfold settleErrors
  rw [parse_unnamed (unnamed.mono (by simp))]
  refine flat_induction rfl fun token rest found => ?_
  cases token with
  | text content => rfl
  | tag mark =>
    have other := unnamed mark (found mark rfl)
    have opens : mark.opens "formErrors" = false := by
      simp only [List.any_cons, List.any_nil, Bool.or_false, Bool.or_eq_false_iff] at other
      simp [Tag.opens, other.2]
    rw [ofToken, fillErrorsAll, fillErrors, opens]
    rfl

/-- A text without sections for expandable or for other forms is left when they are
settled. -/
theorem settleExpandable_unnamed {text : String}
    (unnamed : Unnamed ["ifExpandable", "noShowExpandable"] text) (expandable : Bool) :
    settleExpandable expandable text = text := by
  have kept {name : String} (other : name ∈ ["ifExpandable", "noShowExpandable"]) :
      keepOnlyAll name (flat text) = text := by
    refine flat_induction rfl fun token rest found => ?_
    cases token with
    | text content => rfl
    | tag mark =>
      have none := unnamed mark (found mark rfl)
      rw [List.any_eq_false] at none
      rw [ofToken, keepOnlyAll, keepOnly, if_neg (none name other)]
      rfl
  cases expandable with
  | false =>
    unfold settleExpandable
    dsimp only
    rw [parse_unnamed (unnamed.mono (by simp))]
    exact kept (by simp)
  | true =>
    unfold settleExpandable
    dsimp only
    rw [parse_unnamed (unnamed.mono (by simp))]
    exact kept (by simp)

end Node

end Formwork
