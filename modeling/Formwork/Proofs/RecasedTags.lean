import Formwork.Page.Sections
import Formwork.Proofs.SinglePass
import Mathlib.Data.List.Forall2

/-!
# Tag names in any case

Two texts differ in the case of tag names if they are the same but for the case of letters that
follow an opening brace, or an opening brace and a slash. This is said of texts, not of tags: texts
are taken apart and put together again, and a name may end up behind a brace that begins no tag. It
is enough to read the same tokens from both, with tags that have the same name up to case and the
same attributes, and so to find the same sections.
-/

namespace Formwork

open Text (isBlank)

namespace Text

/-- Texts are the same in lower case if their characters are. -/
theorem toLower_eq_iff {left right : String} :
    left.toLower = right.toLower ↔ folded left = folded right := by
  rw [← String.toList_inj, toList_toLower, toList_toLower]

/-- Characters that are the same in lower case are the same, or both are letters. -/
theorem same_or_letters {c d : Char} (lower : c.toLower = d.toLower) :
    c = d ∨ c.isAlpha = true ∧ d.isAlpha = true := by
  have letters (c : Char) : c.isAlpha = true ↔
      (65 ≤ c.toNat ∧ c.toNat ≤ 90) ∨ (97 ≤ c.toNat ∧ c.toNat ≤ 122) := by
    change (decide (65 ≤ c.val ∧ c.val ≤ 90) || (decide (97 ≤ c.val) && decide (c.val ≤ 122))) =
      true ↔ _
    simp only [UInt32.le_iff_toNat_le, Bool.or_eq_true, Bool.and_eq_true, decide_eq_true_eq]
    rfl
  have lowered (c : Char) : 65 ≤ c.toNat ∧ c.toNat ≤ 90 ∧ c.toLower.toNat = c.toNat + 32 ∨
      ¬ (65 ≤ c.toNat ∧ c.toNat ≤ 90) ∧ c.toLower.toNat = c.toNat := by
    have upper : ('A'.val ≤ c.val ∧ c.val ≤ 'Z'.val) ↔ 65 ≤ c.toNat ∧ c.toNat ≤ 90 := by
      simp only [UInt32.le_iff_toNat_le]
      rfl
    unfold Char.toLower
    split
    · rename_i within
      obtain ⟨above, below⟩ := upper.mp within
      refine .inl ⟨above, below, ?_⟩
      change (c.toNat + 32) % 4294967296 = c.toNat + 32
      omega
    · rename_i without
      exact .inr ⟨fun within => without (upper.mpr within), rfl⟩
  have same : c.toLower.toNat = d.toLower.toNat := congrArg Char.toNat lower
  rw [letters, letters, ← Char.toNat_inj]
  rcases lowered c with ⟨above, below, shifted⟩ | ⟨other, kept⟩
  · rcases lowered d with ⟨above', below', shifted'⟩ | ⟨other', kept'⟩
    · omega
    · omega
  · rcases lowered d with ⟨above', below', shifted'⟩ | ⟨other', kept'⟩
    · omega
    · omega

/-- So names begin and go on with both of them or with neither. -/
theorem startsName_of_lower {c d : Char} (lower : c.toLower = d.toLower) :
    Tag.startsName c = Tag.startsName d := by
  rcases same_or_letters lower with rfl | ⟨letter, letter'⟩
  · rfl
  · simp [Tag.startsName, letter, letter']

/-- If a name is made of characters of names, so is the name in any other case. -/
theorem continued_of_lower {name other : List Char}
    (lower : name.map Char.toLower = other.map Char.toLower)
    (named : ∀ c ∈ name, Tag.continuesName c = true) :
    ∀ c ∈ other, Tag.continuesName c = true := by
  intro d member
  have lowered : d.toLower ∈ name.map Char.toLower := lower ▸ List.mem_map_of_mem member
  obtain ⟨c, inside, same⟩ := List.mem_map.mp lowered
  rcases same_or_letters same with rfl | ⟨letter, letter'⟩
  · exact named c inside
  · simp [Tag.continuesName, Tag.startsName, letter']

/-! ## Texts -/

/-- A name in two cases, perhaps behind a slash. -/
structure RecasedName (slash name other : List Char) : Prop where
  /-- Nothing is in front of it, or a slash. -/
  slashed : slash = [] ∨ slash = ['/']
  /-- It is made of characters of names. -/
  named : ∀ c ∈ name, Tag.continuesName c = true
  /-- In lower case it is the same. -/
  lower : name.map Char.toLower = other.map Char.toLower

/-- The same characters, but for the case of names behind opening braces. -/
inductive RecasedChars : List Char → List Char → Prop where
  /-- Nothing is left. -/
  | nil : RecasedChars [] []
  /-- The same character. -/
  | same (c : Char) {left right : List Char} (rest : RecasedChars left right) :
      RecasedChars (c :: left) (c :: right)
  /-- A name behind a brace. -/
  | name {slash name other left right : List Char} (recased : RecasedName slash name other)
      (rest : RecasedChars left right) :
      RecasedChars ('\x7b' :: (slash ++ name ++ left)) ('\x7b' :: (slash ++ other ++ right))

/-- The same text, but for the case of names behind opening braces. -/
def Recased (left right : String) : Prop := RecasedChars left.toList right.toList

namespace RecasedName

variable {slash name other : List Char}

/-- The two cases may be exchanged. -/
theorem symm (recased : RecasedName slash name other) : RecasedName slash other name :=
  ⟨recased.slashed, continued_of_lower recased.lower recased.named, recased.lower.symm⟩

/-- No name at all. -/
theorem nothing : RecasedName [] [] [] :=
  ⟨.inl rfl, fun _ member => (by cases member), rfl⟩

/-- No brace is among slash and name. -/
theorem plain (recased : RecasedName slash name other) :
    ∀ c ∈ slash ++ name, Tag.isPlain c = true := by
  intro c member
  rcases List.mem_append.mp member with before | inside
  · rcases recased.slashed with rfl | rfl
    · cases before
    · obtain rfl := List.mem_singleton.mp before
      rfl
  · exact Tag.isPlain_of_continuesName (recased.named c inside)

/-- No blank is among them either. -/
theorem kept (recased : RecasedName slash name other) : ∀ c ∈ slash ++ name, isBlank c = false := by
  intro c member
  rcases List.mem_append.mp member with before | inside
  · rcases recased.slashed with rfl | rfl
    · cases before
    · obtain rfl := List.mem_singleton.mp before
      rfl
  · rw [Bool.eq_false_iff]
    intro blank
    have continued := recased.named c inside
    rw [Tag.continuesName_of_isBlank blank] at continued
    cases continued

end RecasedName

namespace RecasedChars

/-- Characters are the same as themselves. -/
theorem refl (chars : List Char) : RecasedChars chars chars := by
  induction chars with
  | nil => exact .nil
  | cons c rest inductionHypothesis => exact .same c inductionHypothesis

variable {left right : List Char}

/-- The two sides may be exchanged. -/
theorem symm (recased : RecasedChars left right) : RecasedChars right left := by
  induction recased with
  | nil => exact .nil
  | same c rest inductionHypothesis => exact .same c inductionHypothesis
  | name recased rest inductionHypothesis => exact .name recased.symm inductionHypothesis

/-- Characters may be put together. -/
theorem append {left' right' : List Char} (front : RecasedChars left right)
    (back : RecasedChars left' right') : RecasedChars (left ++ left') (right ++ right') := by
  induction front with
  | nil => exact back
  | same c rest inductionHypothesis => exact .same c inductionHypothesis
  | name recased rest inductionHypothesis =>
    have whole := RecasedChars.name recased inductionHypothesis
    simpa only [List.cons_append, List.append_assoc] using whole

/-- In lower case they are the same. -/
theorem lower (recased : RecasedChars left right) :
    left.map Char.toLower = right.map Char.toLower := by
  induction recased with
  | nil => rfl
  | same c rest inductionHypothesis => rw [List.map_cons, List.map_cons, inductionHypothesis]
  | name recased rest inductionHypothesis =>
    simp only [List.map_cons, List.map_append, inductionHypothesis, recased.lower]

/-- Any character but an opening brace is the same on both sides. -/
theorem uncons {c : Char} (apart : c ≠ '\x7b') (recased : RecasedChars (c :: left) right) :
    ∃ rest, right = c :: rest ∧ RecasedChars left rest := by
  cases recased with
  | same _ rest => exact ⟨_, rfl, rest⟩
  | name => exact absurd rfl apart

/-- Behind an opening brace there may be a name in another case. -/
theorem behind_brace (recased : RecasedChars ('\x7b' :: left) right) :
    ∃ slash name other front back, left = slash ++ name ++ front ∧
      right = '\x7b' :: (slash ++ other ++ back) ∧ RecasedName slash name other ∧
      RecasedChars front back := by
  cases recased with
  | same _ rest => exact ⟨[], [], [], _, _, rfl, rfl, .nothing, rest⟩
  | name recased rest => exact ⟨_, _, _, _, _, rfl, rfl, recased, rest⟩

/-- Characters without braces in front are the same on both sides. -/
theorem split {front : List Char} {last : Char} (plain : ∀ c ∈ front, Tag.isPlain c = true)
    (apart : last ≠ '\x7b') (recased : RecasedChars (front ++ last :: left) right) :
    ∃ rest, right = front ++ last :: rest ∧ RecasedChars left rest := by
  induction front generalizing right with
  | nil => exact recased.uncons apart
  | cons c front inductionHypothesis =>
    obtain ⟨here, others⟩ := List.forall_mem_cons.mp plain
    obtain ⟨behind, rfl, later⟩ := recased.uncons (Tag.isPlain_iff.mp here).1
    obtain ⟨rest, rfl, last⟩ := inductionHypothesis others later
    exact ⟨rest, rfl, last⟩

/-- They may be trimmed in front. -/
theorem dropBlank (recased : RecasedChars left right) :
    RecasedChars (left.dropWhile isBlank) (right.dropWhile isBlank) := by
  induction recased with
  | nil => exact .nil
  | @same c left right rest inductionHypothesis =>
    by_cases blank : isBlank c = true
    · rw [List.dropWhile_cons_of_pos blank, List.dropWhile_cons_of_pos blank]
      exact inductionHypothesis
    · rw [List.dropWhile_cons_of_neg blank, List.dropWhile_cons_of_neg blank]
      exact .same c rest
  | name recased rest =>
    rw [List.dropWhile_cons_of_neg (by decide), List.dropWhile_cons_of_neg (by decide)]
    exact .name recased rest

/-- Blanks at the end are not in front of the last other character. -/
theorem dropBlankRight_kept {front : List Char} (kept : ∀ c ∈ front, isBlank c = false)
    (behind : List Char) : dropBlankRight (front ++ behind) = front ++ dropBlankRight behind := by
  induction front with
  | nil => rfl
  | cons c front inductionHypothesis =>
    obtain ⟨here, others⟩ := List.forall_mem_cons.mp kept
    have first := dropBlankRight_keeps here [] (front ++ behind)
    rw [List.nil_append, List.nil_append, inductionHypothesis others] at first
    exact first

/-- And at the end. -/
theorem dropBlankRight (recased : RecasedChars left right) :
    RecasedChars (Text.dropBlankRight left) (Text.dropBlankRight right) := by
  induction recased with
  | nil => exact .nil
  | @same c left right rest inductionHypothesis =>
    unfold Text.dropBlankRight
    generalize Text.dropBlankRight left = kept at inductionHypothesis ⊢
    generalize Text.dropBlankRight right = kept' at inductionHypothesis ⊢
    cases inductionHypothesis with
    | nil => exact .refl _
    | same d rest => exact .same c (.same d rest)
    | name recased rest => exact .same c (.name recased rest)
  | @name slash name other left right recased rest inductionHypothesis =>
    have brace : isBlank '\x7b' = false := rfl
    have front := dropBlankRight_kept (List.forall_mem_cons.mpr ⟨brace, recased.kept⟩) left
    have front' := dropBlankRight_kept (List.forall_mem_cons.mpr ⟨brace, recased.symm.kept⟩) right
    rw [List.cons_append] at front front'
    rw [front, front']
    exact .name recased inductionHypothesis

end RecasedChars

namespace Recased

/-- A text is the same as itself. -/
theorem refl (text : String) : Recased text text := RecasedChars.refl _

/-- Equal texts are. -/
theorem of_eq {left right : String} (same : left = right) : Recased left right := same ▸ .refl _

variable {left right : String}

/-- Texts may be put together. -/
theorem append {left' right' : String} (front : Recased left right) (back : Recased left' right') :
    Recased (left ++ left') (right ++ right') := by
  unfold Recased
  rw [String.toList_append, String.toList_append]
  exact RecasedChars.append front back

/-- Any number of them. -/
theorem join {texts others : List String} (each : List.Forall₂ Recased texts others) :
    Recased (String.join texts) (String.join others) := by
  induction each with
  | nil => exact .refl _
  | cons here rest inductionHypothesis =>
    rw [String.join_cons, String.join_cons]
    exact here.append inductionHypothesis

/-- They may be trimmed. -/
theorem trim (recased : Recased left right) : Recased (Text.trim left) (Text.trim right) := by
  unfold Recased Text.trim
  rw [String.toList_ofList, String.toList_ofList]
  exact (RecasedChars.dropBlank recased).dropBlankRight

/-- In lower case they are the same. -/
theorem toLower (recased : Recased left right) : left.toLower = right.toLower :=
  toLower_eq_iff.mpr (RecasedChars.lower recased)

end Recased

end Text

/-! ## Tags -/

/-- The same tag, but for the case of its name. -/
structure Tag.Recased (mark other : Tag) : Prop where
  /-- In lower case the name is the same. -/
  name : mark.name.toLower = other.name.toLower
  /-- It is made of characters of names. -/
  named : ∀ c ∈ mark.name.toList, continuesName c = true
  /-- Both tags open a section, or both close one. -/
  closing : mark.closing = other.closing
  /-- The attributes are written alike. -/
  attributeText : mark.attributeText = other.attributeText
  /-- So is all else. -/
  source : Text.Recased mark.source other.source

namespace Tag

namespace Recased

variable {mark other : Tag}

/-- They have the same name up to case. -/
theorem isNamed (recased : mark.Recased other) (name : String) :
    mark.isNamed name = other.isNamed name := by
  unfold Tag.isNamed Text.sameName
  rw [recased.name]

/-- They open a section of a name, or neither does. -/
theorem opens (recased : mark.Recased other) (name : String) :
    mark.opens name = other.opens name := by
  unfold Tag.opens
  rw [recased.closing, recased.isNamed]

/-- They are settled by the same branch. -/
theorem key (recased : mark.Recased other) : mark.key = other.key := by
  unfold Tag.key
  rw [recased.closing, recased.name]

/-- They have the same attributes. -/
theorem attributes (recased : mark.Recased other) : mark.attributes = other.attributes :=
  congrArg Attributes.parse recased.attributeText

/-- They may be given other attributes. -/
theorem withAttributes (recased : mark.Recased other) (attributes : Attributes) :
    (mark.withAttributes attributes).Recased (other.withAttributes attributes) := by
  have names : Text.RecasedName [] mark.name.toList other.name.toList :=
    ⟨.inl rfl, recased.named, Text.toLower_eq_iff.mp recased.name⟩
  have spelled (behind : List Char) : Text.RecasedChars ('\x7b' :: (mark.name.toList ++ behind))
      ('\x7b' :: (other.name.toList ++ behind)) :=
    .name names (.refl behind)
  refine ⟨recased.name, recased.named, rfl, rfl, ?_⟩
  unfold Tag.withAttributes opening Text.Recased
  dsimp only
  split
  · simpa using spelled ['\x7d']
  · simpa using spelled (' ' :: ((Text.trim attributes.toSource).toList ++ ['\x7d']))

end Recased

/-- A proper tag is the same as itself. -/
theorem Proper.recased {mark : Tag} (proper : mark.Proper) : mark.Recased mark := by
  obtain ⟨first, rest, name, starts, continued⟩ := proper.named
  refine ⟨rfl, ?_, rfl, rfl, .refl _⟩
  rw [name]
  exact List.forall_mem_cons.mpr ⟨by simp [continuesName, starts], continued⟩

/-- A name between braces and what is behind it make a tag body if the name begins like one, a
blank ends it, and a closing tag has nothing but blanks behind it. -/
theorem ofBody?_of_name {slash name : List Char} (slashed : slash = [] ∨ slash = ['/'])
    (named : ∀ c ∈ name, continuesName c = true) (filled : name ≠ []) (behind : List Char) :
    ofBody? (slash ++ name ++ behind) =
      if name.head?.any startsName && (behind.dropWhile continuesName).head?.all isBlank &&
          !(!slash.isEmpty && Text.trimChars (behind.dropWhile continuesName) ≠ [])
      then
        some
          { name := String.ofList (name ++ behind.takeWhile continuesName)
            closing := !slash.isEmpty
            attributeText := String.ofList (Text.trimChars (behind.dropWhile continuesName))
            source := String.ofList (['\x7b'] ++ (slash ++ name ++ behind) ++ ['\x7d']) }
      else none := by
  have taken : (name ++ behind).takeWhile continuesName = name ++ behind.takeWhile continuesName :=
    List.takeWhile_append_of_pos named
  have dropped : (name ++ behind).dropWhile continuesName = behind.dropWhile continuesName :=
    List.dropWhile_append_of_pos named
  obtain ⟨first, rest, rfl⟩ := List.exists_cons_of_ne_nil filled
  have apart : first ≠ '/' := by
    rintro rfl
    exact absurd (named _ List.mem_cons_self) (by decide)
  unfold ofBody?
  dsimp only
  rcases slashed with rfl | rfl
  · have opens : (([] ++ (first :: rest) ++ behind).head? == some '/') = false := by simp [apart]
    rw [opens, if_neg Bool.false_ne_true, List.nil_append, taken, dropped]
    rfl
  · have closes : ((['/'] ++ (first :: rest) ++ behind).head? == some '/') = true := rfl
    have inner : (['/'] ++ (first :: rest) ++ behind).tail = first :: rest ++ behind := rfl
    rw [closes, if_pos rfl, inner, taken, dropped]
    rfl

/-- A tag body with its name in another case is a tag body. -/
theorem ofBody?_recased {slash name other behind : List Char}
    (recased : Text.RecasedName slash name other) (plain : ∀ c ∈ behind, isPlain c = true)
    {mark : Tag} (made : ofBody? (slash ++ name ++ behind) = some mark) :
    ∃ mark', ofBody? (slash ++ other ++ behind) = some mark' ∧ mark.Recased mark' := by
  have inside : ∀ c ∈ slash ++ name ++ behind, isPlain c = true := by
    intro c member
    rcases List.mem_append.mp member with front | back
    · exact recased.plain c front
    · exact plain c back
  have proper := proper_of_body inside made
  -- Without a name here the tag may begin with anything, and is the same.
  cases name with
  | nil =>
    cases other with
    | nil => exact ⟨mark, made, proper.recased⟩
    | cons d others => cases recased.lower
  | cons c rest =>
    cases other with
    | nil => cases recased.lower
    | cons d others =>
      rw [ofBody?_of_name recased.slashed recased.named (List.cons_ne_nil _ _)] at made
      rw [ofBody?_of_name recased.slashed recased.symm.named (List.cons_ne_nil _ _)]
      have starts : (d :: others).head?.any startsName = (c :: rest).head?.any startsName :=
        Text.startsName_of_lower (List.cons.inj recased.lower).1.symm
      rw [starts]
      split at made
      · rename_i accepted
        rw [if_pos accepted]
        obtain rfl := Option.some.inj made
        refine ⟨_, rfl, ?_, proper.recased.named, rfl, rfl, ?_⟩
        · rw [Text.toLower_eq_iff]
          simp only [Text.folded, String.toList_ofList, List.map_append, recased.lower]
        · have whole := Text.RecasedChars.name recased (.refl (behind ++ ['\x7d']))
          simpa [Text.Recased] using whole
      · cases made

/-- A tag that begins behind a brace begins there with its name in another case, and what is
behind both tags differs in the case of names. -/
theorem at?_recased {slash name other left right : List Char}
    (recased : Text.RecasedName slash name other) (rest : Text.RecasedChars left right) {mark : Tag}
    {length : Nat} (found : at? (slash ++ name ++ left) = some (mark, length)) :
    ∃ mark', at? (slash ++ other ++ right) = some (mark', length) ∧ mark.Recased mark' ∧
      Text.RecasedChars ((slash ++ name ++ left).drop length)
        ((slash ++ other ++ right).drop length) := by
  obtain ⟨body, behind, whole, plain, made, rfl⟩ := at?_eq_some_iff.mp found
  -- The name ends before the closing brace.
  obtain ⟨middle, rfl, rfl⟩ : ∃ middle, body = slash ++ name ++ middle ∧
      left = middle ++ '\x7d' :: behind := by
    rcases List.append_eq_append_iff.mp whole with ⟨middle, body, left⟩ | ⟨middle, front, brace⟩
    · exact ⟨middle, body, left⟩
    · cases middle with
      | nil => exact ⟨[], by simp [front], brace.symm⟩
      | cons c others =>
        obtain ⟨rfl, -⟩ := List.cons.inj brace
        have inside := recased.plain '\x7d' (by rw [front]; simp)
        cases inside
  have free : ∀ c ∈ middle, isPlain c = true := fun c member =>
    plain c (List.mem_append_right _ member)
  obtain ⟨behind', rfl, later⟩ := rest.split free (by decide)
  obtain ⟨mark', made', same⟩ := ofBody?_recased recased free made
  have plain' : ∀ c ∈ slash ++ other ++ middle, isPlain c = true := by
    intro c member
    rcases List.mem_append.mp member with front | back
    · exact recased.symm.plain c front
    · exact free c back
  have length : (slash ++ name ++ middle).length = (slash ++ other ++ middle).length := by
    have names := congrArg List.length recased.lower
    rw [List.length_map, List.length_map] at names
    simp only [List.length_append, names]
  have dropped (body behind : List Char) :
      (body ++ '\x7d' :: behind).drop (body.length + 1) = behind := by
    simp
  refine ⟨mark', at?_eq_some_iff.mpr ⟨_, behind', by simp, plain', made', by rw [length]⟩, same, ?_⟩
  rw [← List.append_assoc, dropped, length, ← List.append_assoc, dropped]
  exact later

end Tag

/-! ## Tokens -/

/-- Characters without braces are pieces of their own, whatever is behind them. -/
theorem Piece.scan_behind {front : List Char} (plain : ∀ c ∈ front, Tag.isPlain c = true)
    (behind : List Char) : scan 0 (front ++ behind) = front.map .char ++ scan 0 behind := by
  have tidy : ∀ piece ∈ scan 0 front, piece.Tidy := by
    rw [scan_plain plain]
    intro piece member
    obtain ⟨c, inside, rfl⟩ := List.mem_map.mp member
    exact plain c inside
  rw [scan_append (.inl tidy), scan_plain plain, Nat.zero_sub]

namespace Token

/-- The same token, but for the case of names. -/
inductive Recased : Token → Token → Prop where
  /-- A text, which may hold names behind braces that begin no tag. -/
  | text {content other : String} (same : Text.Recased content other) :
      Recased (.text content) (.text other)
  /-- A tag. -/
  | tag {mark other : Tag} (same : mark.Recased other) : Recased (.tag mark) (.tag other)

/-- Plain characters are collected. -/
theorem group_chars (reversed chars : List Char) (pieces : List Piece) :
    group reversed (chars.map .char ++ pieces) = group (chars.reverse ++ reversed) pieces := by
  induction chars generalizing reversed with
  | nil => rfl
  | cons c rest inductionHypothesis =>
    rw [List.map_cons, List.cons_append, group, inductionHypothesis, List.reverse_cons,
      List.append_assoc, List.singleton_append]

/-- What was collected of both texts becomes the same token. -/
theorem ofRun_recased {reversed other : List Char}
    (recased : Text.RecasedChars reversed.reverse other.reverse) :
    List.Forall₂ Recased (ofRun reversed) (ofRun other) := by
  have length := congrArg List.length recased.lower
  simp only [List.length_map, List.length_reverse] at length
  cases reversed with
  | nil =>
    obtain rfl := List.length_eq_zero_iff.mp length.symm
    exact .nil
  | cons last earlier =>
    cases other with
    | nil => cases length
    | cons last' earlier' =>
      refine .cons (.text ?_) .nil
      unfold Text.Recased
      rwa [String.toList_ofList, String.toList_ofList]

/-- Characters that differ in the case of names are grouped to tokens that do, if what was collected
of them before differs so.

Induction on the number of characters, for what a tag covers is read at once. -/
theorem group_recased {left right : List Char} (recased : Text.RecasedChars left right)
    {reversed other : List Char} (collected : Text.RecasedChars reversed.reverse other.reverse) :
    List.Forall₂ Recased (group reversed (Piece.scan 0 left)) (group other (Piece.scan 0 right)) := by
  induction size : left.length using Nat.strongRecOn generalizing left right reversed other with
  | ind size inductionHypothesis =>
    subst size
    cases left with
    | nil =>
      cases recased
      exact ofRun_recased collected
    | cons c rest =>
      by_cases brace : c = '\x7b'
      · subst brace
        obtain ⟨slash, name, name', front, back, rfl, rfl, names, behind⟩ := recased.behind_brace
        -- A tag begins here on both sides, or on neither.
        cases found : Tag.at? (slash ++ name ++ front) with
        | some read =>
          obtain ⟨mark, length⟩ := read
          obtain ⟨mark', found', same, later⟩ := Tag.at?_recased names behind found
          rw [Piece.scan_open found, Piece.scan_open found', Piece.scan_drop, group,
            Piece.scan_drop length (slash ++ name' ++ back), group]
          refine List.rel_append (ofRun_recased collected) (.cons (.tag same) ?_)
          refine inductionHypothesis _ ?_ later .nil rfl
          simp only [List.length_drop, List.length_cons]
          omega
        | none =>
          have found' : Tag.at? (slash ++ name' ++ back) = none := by
            rw [Option.eq_none_iff_forall_ne_some]
            rintro ⟨mark, length⟩ there
            obtain ⟨_, here, -⟩ := Tag.at?_recased names.symm behind.symm there
            rw [found] at here
            cases here
          rw [Piece.scan_char (.inr found), Piece.scan_char (.inr found'), group, group,
            Piece.scan_behind names.plain, Piece.scan_behind names.symm.plain, group_chars,
            group_chars]
          refine inductionHypothesis _ ?_ behind ?_ rfl
          · simp only [List.length_cons, List.length_append]
            omega
          · have more := collected.append (.name names .nil)
            simpa using more
      · obtain ⟨rest', rfl, later⟩ := recased.uncons brace
        rw [Piece.scan_char (.inl brace), Piece.scan_char (.inl brace), group, group]
        refine inductionHypothesis _ (by simp) later ?_ rfl
        rw [List.reverse_cons, List.reverse_cons]
        exact collected.append (.same c .nil)

/-- The same is said of what tokens stand for. -/
theorem Recased.source {token other : Token} (recased : token.Recased other) :
    Text.Recased token.source other.source := by
  cases recased with
  | text same => exact same
  | tag same => exact same.source

end Token

namespace Text.Recased

variable {left right : String}

/-- Texts that differ in the case of names have tokens that do. -/
theorem tokens (recased : Recased left right) :
    List.Forall₂ Token.Recased (Token.tokenize left) (Token.tokenize right) :=
  Token.group_recased recased .nil

/-- A pass over tokens that changes both alike leads to texts that differ in the case of names. -/
theorem change (recased : Recased left right) {change : Token → String}
    (both : ∀ token other, token.Recased other → Recased (change token) (change other)) :
    Recased (String.join ((Token.tokenize left).map change))
      (String.join ((Token.tokenize right).map change)) := by
  refine .join (List.forall₂_map_left_iff.mpr (List.forall₂_map_right_iff.mpr ?_))
  exact recased.tokens.imp both

end Text.Recased

/-! ## Sections -/

namespace Node

/-- Nodes that are the same but for the case of names. -/
inductive Recased : List Node → List Node → Prop where
  /-- Nothing is left. -/
  | nil : Recased [] []
  /-- A text. -/
  | text {content other : String} {left right : List Node} (same : Text.Recased content other)
      (rest : Recased left right) : Recased (.text content :: left) (.text other :: right)
  /-- A tag. -/
  | tag {mark other : Tag} {left right : List Node} (same : mark.Recased other)
      (rest : Recased left right) : Recased (.tag mark :: left) (.tag other :: right)
  /-- A section. -/
  | section {opening opening' closing closing' : Tag} {inner inner' left right : List Node}
      (opens : opening.Recased opening') (closes : closing.Recased closing')
      (children : Recased inner inner') (rest : Recased left right) :
      Recased (.section opening inner closing :: left) (.section opening' inner' closing' :: right)

/-- A node that is the same as another but for the case of names. -/
inductive Pair : Node → Node → Prop where
  /-- A text. -/
  | text {content other : String} (same : Text.Recased content other) :
      Pair (.text content) (.text other)
  /-- A tag. -/
  | tag {mark other : Tag} (same : mark.Recased other) : Pair (.tag mark) (.tag other)
  /-- A section. -/
  | section {opening opening' closing closing' : Tag} {inner inner' : List Node}
      (opens : opening.Recased opening') (closes : closing.Recased closing')
      (children : Recased inner inner') :
      Pair (.section opening inner closing) (.section opening' inner' closing')

/-- Such nodes are paired one by one. -/
theorem Recased.paired {left right : List Node} (recased : Recased left right) :
    List.Forall₂ Pair left right := by
  induction recased with
  | nil => exact .nil
  | text same rest inductionHypothesis => exact .cons (.text same) inductionHypothesis
  | tag same rest inductionHypothesis => exact .cons (.tag same) inductionHypothesis
  | «section» opens closes children rest ignored inductionHypothesis =>
    exact .cons (.section opens closes children) inductionHypothesis

/-- They may be put together. -/
theorem Recased.append {left right left' right' : List Node} (front : Recased left right)
    (back : Recased left' right') : Recased (left ++ left') (right ++ right') := by
  induction front with
  | nil => exact back
  | text same rest inductionHypothesis => exact .text same inductionHypothesis
  | tag same rest inductionHypothesis => exact .tag same inductionHypothesis
  | «section» opens closes children rest ignored inductionHypothesis =>
    exact .section opens closes children inductionHypothesis

/-- Open sections that are the same but for the case of names. -/
inductive Frame.Recased : List Frame → List Frame → Prop where
  /-- No section is open. -/
  | nil : Recased [] []
  /-- A section with the same name up to case. -/
  | cons {opening opening' : Tag} {inner inner' : List Node} {left right : List Frame}
      (opens : opening.Recased opening') (children : Node.Recased inner inner')
      (rest : Recased left right) :
      Recased (⟨opening, inner⟩ :: left) (⟨opening', inner'⟩ :: right)

/-- What has been read is the same but for the case of names. -/
structure Forest.Recased (left right : Forest) : Prop where
  /-- So are the open sections. -/
  pending : Frame.Recased left.pending right.pending
  /-- And the nodes outside. -/
  roots : Node.Recased left.roots right.roots

namespace Forest.Recased

variable {left right : Forest}

/-- Nodes may be added. -/
theorem attach (recased : left.Recased right) {nodes nodes' : List Node}
    (added : Node.Recased nodes nodes') : (left.attach nodes).Recased (right.attach nodes') := by
  obtain ⟨pending, roots⟩ := left
  obtain ⟨pending', roots'⟩ := right
  obtain ⟨open', outside⟩ := recased
  cases open' with
  | nil => exact ⟨.nil, outside.append added⟩
  | cons opens children rest => exact ⟨.cons opens (children.append added) rest, outside⟩

/-- A tag ends the same section in any case. -/
theorem close {closing closing' : Tag} (closes : closing.Recased closing')
    {roots roots' : List Node} (outside : Node.Recased roots roots') {frames frames' : List Frame}
    (pending : Frame.Recased frames frames') {inner inner' : List Node}
    (inside : Node.Recased inner inner') :
    (Forest.close closing roots inner frames).Recased
      (Forest.close closing' roots' inner' frames') := by
  induction pending generalizing inner inner' with
  | nil => exact ⟨.nil, (outside.append inside).append (.tag closes .nil)⟩
  | @cons opening opening' _ _ _ _ opens children rest inductionHypothesis =>
    have named : opening.isNamed closing.name = opening'.isNamed closing'.name := by
      unfold Tag.isNamed Text.sameName
      rw [opens.name, closes.name]
    unfold Forest.close
    dsimp only
    rw [named]
    split
    · exact attach ⟨rest, outside⟩ (.section opens closes (children.append inside) .nil)
    · exact inductionHypothesis (.tag opens (children.append inside))

/-- The same names are open. -/
theorem any_named {frames frames' : List Frame} (pending : Frame.Recased frames frames')
    {name name' : String} (lower : name.toLower = name'.toLower) :
    (frames.any fun frame => frame.opening.isNamed name) =
      frames'.any fun frame => frame.opening.isNamed name' := by
  induction pending with
  | nil => rfl
  | cons opens children rest inductionHypothesis =>
    rw [List.any_cons, List.any_cons, inductionHypothesis]
    simp only [Tag.isNamed, Text.sameName, opens.name, lower]

/-- A token is read alike in any case. -/
theorem read (recased : left.Recased right) (names : List String) {token other : Token}
    (same : token.Recased other) : (left.read names token).Recased (right.read names other) := by
  cases same with
  | text same => exact recased.attach (.text same .nil)
  | @tag mark other same =>
    have known : names.any mark.isNamed = names.any other.isNamed :=
      congrArg _ (funext same.isNamed)
    unfold Forest.read
    dsimp only
    rw [known, same.closing, any_named recased.pending same.name]
    split
    · exact recased.attach (.tag same .nil)
    · split
      · exact ⟨.cons same .nil recased.pending, recased.roots⟩
      · split
        · exact .close same recased.roots recased.pending .nil
        · exact recased.attach (.tag same .nil)

/-- So are all tokens. -/
theorem reads (recased : left.Recased right) (names : List String) {tokens others : List Token}
    (same : List.Forall₂ Token.Recased tokens others) :
    (tokens.foldl (Forest.read names) left).Recased (others.foldl (Forest.read names) right) := by
  induction same generalizing left right with
  | nil => exact recased
  | cons here rest inductionHypothesis => exact inductionHypothesis (recased.read names here)

/-- What is left open falls apart alike. -/
theorem finish (recased : left.Recased right) : Node.Recased left.finish right.finish := by
  have loosened {frames frames' : List Frame} (pending : Frame.Recased frames frames')
      {inner inner' : List Node} (inside : Node.Recased inner inner') :
      Node.Recased (frames.foldl (fun inner frame => loosen frame inner) inner)
        (frames'.foldl (fun inner frame => loosen frame inner) inner') := by
    induction pending generalizing inner inner' with
    | nil => exact inside
    | cons opens children rest inductionHypothesis =>
      exact inductionHypothesis (.tag opens (children.append inside))
  exact recased.roots.append (loosened recased.pending .nil)

end Forest.Recased

/-- Texts that differ in the case of names have the same sections but for that. -/
theorem parse_recased {left right : String} (recased : Text.Recased left right)
    (names : List String) : Recased (parse names left) (parse names right) :=
  Forest.Recased.finish (.reads ⟨.nil, .nil⟩ names recased.tokens)

namespace Recased

variable {left right : List Node}

/-- Nodes stand for texts that differ in the case of names. -/
theorem sources (recased : Recased left right) :
    Text.Recased (Node.sources left) (Node.sources right) := by
  induction recased with
  | nil => exact .refl _
  | text same rest inductionHypothesis => exact same.append inductionHypothesis
  | tag same rest inductionHypothesis => exact same.source.append inductionHypothesis
  | «section» opens closes children rest inside inductionHypothesis =>
    exact ((opens.source.append inside).append closes.source).append inductionHypothesis

/-- Errors are filled in alike. -/
theorem fillErrors (recased : Recased left right) (errors : String) :
    Text.Recased (fillErrorsAll errors left) (fillErrorsAll errors right) := by
  induction recased with
  | nil => exact .refl _
  | text same rest inductionHypothesis => exact same.append inductionHypothesis
  | @tag mark other _ _ same rest inductionHypothesis =>
    have here : Text.Recased (Node.fillErrors errors (.tag mark))
        (Node.fillErrors errors (.tag other)) := by
      unfold Node.fillErrors
      rw [same.opens]
      split
      · exact .refl _
      · exact same.source
    exact here.append inductionHypothesis
  | @«section» opening opening' closing closing' inner inner' _ _ opens closes children rest inside
      inductionHypothesis =>
    have here : Text.Recased (Node.fillErrors errors (.section opening inner closing))
        (Node.fillErrors errors (.section opening' inner' closing')) := by
      unfold Node.fillErrors
      split
      · exact .refl _
      · exact inside
    exact here.append inductionHypothesis

/-- Sections of one name are kept alike. -/
theorem keepOnly (recased : Recased left right) (kept : String) :
    Text.Recased (keepOnlyAll kept left) (keepOnlyAll kept right) := by
  induction recased with
  | nil => exact .refl _
  | text same rest inductionHypothesis => exact same.append inductionHypothesis
  | @tag mark other _ _ same rest inductionHypothesis =>
    have here : Text.Recased (Node.keepOnly kept (.tag mark)) (Node.keepOnly kept (.tag other)) := by
      unfold Node.keepOnly
      rw [same.isNamed]
      split
      · exact .refl _
      · exact same.source
    exact here.append inductionHypothesis
  | @«section» opening opening' closing closing' inner inner' _ _ opens closes children rest inside
      inductionHypothesis =>
    have here : Text.Recased (Node.keepOnly kept (.section opening inner closing))
        (Node.keepOnly kept (.section opening' inner' closing')) := by
      unfold Node.keepOnly
      rw [opens.isNamed]
      split
      · exact inside
      · exact .refl _
    exact here.append inductionHypothesis

end Recased

/-- Sections that depend on errors are settled alike. -/
theorem settleErrors_recased {left right : String} (recased : Text.Recased left right)
    (errors : String) : Text.Recased (settleErrors errors left) (settleErrors errors right) :=
  (parse_recased recased ["ifFormErrors"]).fillErrors errors

/-- Sections for expandable and for other forms are settled alike. -/
theorem settleExpandable_recased {left right : String} (recased : Text.Recased left right)
    (expandable : Bool) :
    Text.Recased (settleExpandable expandable left) (settleExpandable expandable right) := by
  cases expandable with
  | false => exact (parse_recased recased ["noShowExpandable", "ifExpandable"]).keepOnly _
  | true => exact (parse_recased recased ["ifExpandable", "noShowExpandable"]).keepOnly _

end Node

end Formwork
