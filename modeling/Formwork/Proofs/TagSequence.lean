import Formwork.Template.Token

/-!
# Tags and the text between them

A text is tidy if all its braces belong to tags. Tidy texts can be put together:
the tags of the whole are those of the parts, in order, whatever stands between
them. Two texts are alike if they are tidy and hold the same tags in the same
order, so that a pass that looks only at tags does the same to both.
-/

namespace Formwork

open Text (isBlank)

namespace Tag

/-- A character is plain if it is neither brace. -/
theorem isPlain_iff {c : Char} : isPlain c = true ↔ c ≠ '\x7b' ∧ c ≠ '\x7d' := by
  simp [isPlain]

/-- What passes a test that both braces fail is plain. -/
theorem isPlain_of_test {test : Char → Bool} (opened : test '\x7b' = false)
    (closed : test '\x7d' = false) {c : Char} (passes : test c = true) : isPlain c = true := by
  rw [isPlain_iff]
  constructor
  · rintro rfl
    rw [opened] at passes
    cases passes
  · rintro rfl
    rw [closed] at passes
    cases passes

end Tag

namespace Text

/-- The text holds no brace. -/
def Plain (text : String) : Prop := ∀ c ∈ text.toList, Tag.isPlain c = true

instance (text : String) : Decidable (Plain text) :=
  List.decidableBAll (fun c => Tag.isPlain c = true) text.toList

/-- A text put together is plain exactly when both its parts are. -/
@[simp] theorem plain_append {left right : String} :
    Plain (left ++ right) ↔ Plain left ∧ Plain right := by
  simp only [Plain, String.toList_append, List.mem_append, or_imp, forall_and]

/-- Plain texts put together in a list are plain. -/
theorem Plain.join {texts : List String} (each : ∀ text ∈ texts, Plain text) :
    Plain (String.join texts) := by
  intro c member
  rw [String.toList_join, List.mem_flatMap] at member
  obtain ⟨text, inside, there⟩ := member
  exact each text inside c there

/-- Blank characters are no braces. -/
theorem isPlain_of_isBlank {c : Char} (blank : isBlank c = true) : Tag.isPlain c = true :=
  Tag.isPlain_of_test rfl rfl blank

end Text

/-! ## Where tags begin -/

namespace Tag

/-- A closing brace is no part of a tag body. -/
theorem not_isPlain_close : isPlain '\x7d' = false := rfl

/-- A tag begins before some characters exactly when they begin with a tag body
and a closing brace. -/
theorem at?_eq_some_iff {chars : List Char} {mark : Tag} {length : Nat} :
    at? chars = some (mark, length) ↔
      ∃ body rest, chars = body ++ '\x7d' :: rest ∧ (∀ c ∈ body, isPlain c = true) ∧
        ofBody? body = some mark ∧ length = body.length + 1 := by
  unfold at?
  dsimp only
  constructor
  · intro found
    split at found
    · rename_i closed
      obtain ⟨tag, made, same⟩ := Option.map_eq_some_iff.mp found
      obtain ⟨rfl, rfl⟩ := Prod.mk.inj same
      obtain ⟨rest, behind⟩ := List.head?_eq_some_iff.mp closed
      refine ⟨_, rest, ?_, List.all_eq_true.mp List.all_takeWhile, made, rfl⟩
      rw [← behind, List.takeWhile_append_dropWhile]
    · cases found
  · rintro ⟨body, rest, rfl, plain, made, rfl⟩
    rw [List.takeWhile_append_of_pos plain, List.dropWhile_append_of_pos plain]
    simp [not_isPlain_close, made]

/-- A tag that begins before some characters begins there whatever follows them. -/
theorem at?_append {chars : List Char} {mark : Tag} {length : Nat}
    (found : at? chars = some (mark, length)) (right : List Char) :
    at? (chars ++ right) = some (mark, length) := by
  obtain ⟨body, rest, rfl, plain, made, same⟩ := at?_eq_some_iff.mp found
  exact at?_eq_some_iff.mpr ⟨body, rest ++ right, by simp, plain, made, same⟩

/-- A tag is read within the characters that it begins before. -/
theorem at?_length {chars : List Char} {mark : Tag} {length : Nat}
    (found : at? chars = some (mark, length)) : length ≤ chars.length := by
  obtain ⟨body, rest, rfl, -, -, rfl⟩ := at?_eq_some_iff.mp found
  simp only [List.length_append, List.length_cons]
  omega

/-- No brace that is opened before the characters is closed by them. -/
def ClosesNone (chars : List Char) : Prop := (chars.dropWhile isPlain).head? ≠ some '\x7d'

/-- Plain characters close no brace. -/
theorem ClosesNone.of_plain {chars : List Char} (plain : ∀ c ∈ chars, isPlain c = true) :
    ClosesNone chars := by
  have none : (chars ++ []).dropWhile isPlain = [].dropWhile isPlain :=
    List.dropWhile_append_of_pos plain
  rw [List.append_nil] at none
  rw [ClosesNone, none]
  simp

/-- Nor do characters that open one themselves. -/
theorem ClosesNone.opened (rest : List Char) : ClosesNone ('\x7b' :: rest) := by
  rw [ClosesNone, List.dropWhile_cons_of_neg (by decide)]
  simp

/-- Characters that close no brace complete no tag. -/
theorem at?_append_apart (chars : List Char) {right : List Char} (apart : ClosesNone right) :
    at? (chars ++ right) = at? chars := by
  have reaches (middle : List Char) {rest : List Char} (plain : ∀ c ∈ middle, isPlain c = true) :
      right ≠ middle ++ '\x7d' :: rest := by
    rintro rfl
    rw [ClosesNone, List.dropWhile_append_of_pos plain,
      List.dropWhile_cons_of_neg (by simp [not_isPlain_close])] at apart
    exact apart rfl
  apply Option.ext
  rintro ⟨mark, length⟩
  constructor
  · intro found
    obtain ⟨body, rest, whole, inside, made, same⟩ := at?_eq_some_iff.mp found
    rcases List.append_eq_append_iff.mp whole with ⟨middle, split, behind⟩ | ⟨middle, split, behind⟩
    · -- The closing brace would stand behind the seam.
      refine absurd behind (reaches middle fun c member => inside c ?_)
      rw [split]
      exact List.mem_append_right _ member
    · cases middle with
      | nil => exact absurd behind.symm (reaches [] (by simp))
      | cons c middle =>
        obtain ⟨rfl, -⟩ := List.cons.inj behind
        exact at?_eq_some_iff.mpr ⟨body, middle, split, inside, made, same⟩
  · intro found
    exact at?_append found right

end Tag

/-! ## Pieces -/

namespace Piece

/-- A character of the piece is no brace. -/
def Tidy : Piece → Prop
  | .char c => Tag.isPlain c = true
  | .tag _ => True

/-- The tag of the piece. -/
def mark? : Piece → Option Tag
  | .char _ => none
  | .tag mark => some mark

/-- A character that begins no tag is a piece of its own. -/
theorem scan_char {c : Char} {rest : List Char} (apart : c ≠ '\x7b' ∨ Tag.at? rest = none) :
    scan 0 (c :: rest) = .char c :: scan 0 rest := by
  have none : (if c = '\x7b' then Tag.at? rest else none) = none := by
    rcases apart with other | alone
    · exact if_neg other
    · rw [alone, ite_self]
  rw [scan, none]

/-- A brace that begins a tag stands for the tag. -/
theorem scan_open {rest : List Char} {mark : Tag} {length : Nat}
    (found : Tag.at? rest = some (mark, length)) :
    scan 0 ('\x7b' :: rest) = .tag mark :: scan length rest := by
  rw [scan, if_pos rfl, found]

/-- Scanning begins afresh behind characters whose braces all belong to tags, and
in front of characters that close no brace: no tag stands across the seam. -/
theorem scan_append {covered : Nat} {left right : List Char}
    (seam : (∀ piece ∈ scan covered left, piece.Tidy) ∨ Tag.ClosesNone right) :
    scan covered (left ++ right) = scan covered left ++ scan (covered - left.length) right := by
  induction left generalizing covered with
  | nil => simp [scan]
  | cons c rest inductionHypothesis =>
    cases covered with
    | succ covered =>
      simp only [List.cons_append, scan, List.length_cons, Nat.add_sub_add_right] at seam ⊢
      exact inductionHypothesis seam
    | zero =>
      rw [List.cons_append, Nat.zero_sub]
      by_cases alone : c ≠ '\x7b' ∨ Tag.at? rest = none
      · rw [scan_char alone] at seam ⊢
        have still : c ≠ '\x7b' ∨ Tag.at? (rest ++ right) = none := by
          rcases alone with other | none
          · exact .inl other
          · rcases seam with tidy | apart
            · left
              rintro rfl
              exact absurd (tidy _ List.mem_cons_self) (by simp [Tidy, Tag.isPlain])
            · exact .inr ((Tag.at?_append_apart rest apart).trans none)
        have others : (∀ piece ∈ scan 0 rest, piece.Tidy) ∨ Tag.ClosesNone right :=
          seam.imp_left fun tidy piece member => tidy piece (List.mem_cons_of_mem _ member)
        rw [scan_char still, inductionHypothesis others, Nat.zero_sub]
        rfl
      · obtain ⟨same, some⟩ := not_or.mp alone
        obtain rfl := Decidable.not_not.mp same
        obtain ⟨⟨mark, length⟩, found⟩ := Option.ne_none_iff_exists'.mp some
        rw [scan_open found] at seam ⊢
        have within : length - rest.length = 0 := Nat.sub_eq_zero_of_le (Tag.at?_length found)
        have others : (∀ piece ∈ scan length rest, piece.Tidy) ∨ Tag.ClosesNone right :=
          seam.imp_left fun tidy piece member => tidy piece (List.mem_cons_of_mem _ member)
        rw [scan_open (Tag.at?_append found right), inductionHypothesis others, within]
        rfl

/-- Plain characters are pieces of their own. -/
theorem scan_plain {chars : List Char} (plain : ∀ c ∈ chars, Tag.isPlain c = true) :
    scan 0 chars = chars.map .char := by
  induction chars with
  | nil => rfl
  | cons c rest inductionHypothesis =>
    have apart : c ≠ '\x7b' := by
      rintro rfl
      exact absurd (plain _ List.mem_cons_self) (by decide)
    rw [scan_char (.inl apart), inductionHypothesis fun other member =>
      plain other (List.mem_cons_of_mem _ member), List.map_cons]

/-- Characters that are read already are no pieces. -/
theorem scan_covered (chars right : List Char) : scan chars.length (chars ++ right) = scan 0 right := by
  induction chars with
  | nil => rfl
  | cons c rest inductionHypothesis =>
    exact inductionHypothesis

/-- A tag body between braces is one piece. -/
theorem scan_tag {body : List Char} {mark : Tag} (plain : ∀ c ∈ body, Tag.isPlain c = true)
    (made : Tag.ofBody? body = some mark) :
    scan 0 ('\x7b' :: body ++ ['\x7d']) = [.tag mark] := by
  have found : Tag.at? (body ++ ['\x7d']) = some (mark, body.length + 1) :=
    Tag.at?_eq_some_iff.mpr ⟨body, [], rfl, plain, made, rfl⟩
  have read : scan (body.length + 1) (body ++ ['\x7d']) = [] := by
    have covered := scan_covered (body ++ ['\x7d']) []
    rw [List.append_nil, List.length_append] at covered
    exact covered
  rw [List.cons_append, scan_open found, read]

end Piece

/-! ## Tidy texts -/

namespace Text

/-- The pieces of a text. -/
def pieces (text : String) : List Piece := Piece.scan 0 text.toList

/-- All braces of the text belong to tags. -/
def Tidy (text : String) : Prop := ∀ piece ∈ pieces text, piece.Tidy

/-- The tags of a text, in order. -/
def marks (text : String) : List Tag := (pieces text).filterMap Piece.mark?

/-- Texts are put together by their pieces if the first is tidy. -/
theorem pieces_append {left : String} (tidy : Tidy left) (right : String) :
    pieces (left ++ right) = pieces left ++ pieces right := by
  unfold pieces
  rw [String.toList_append, Piece.scan_append (.inl tidy), Nat.zero_sub]

/-- A plain text is tidy. -/
theorem Plain.tidy {text : String} (plain : Plain text) : Tidy text := by
  intro piece member
  rw [pieces, Piece.scan_plain plain] at member
  obtain ⟨c, inside, rfl⟩ := List.mem_map.mp member
  exact plain c inside

/-- Plain characters are no tags. -/
theorem mark?_chars (chars : List Char) :
    (chars.map Piece.char).filterMap Piece.mark? = [] := by
  simp [List.filterMap_eq_nil_iff, Piece.mark?]

/-- A plain text holds no tags. -/
theorem Plain.marks {text : String} (plain : Plain text) : Text.marks text = [] := by
  rw [Text.marks, pieces, Piece.scan_plain plain, mark?_chars]

/-- Tidy texts put together are tidy. -/
theorem Tidy.append {left right : String} (first : Tidy left) (second : Tidy right) :
    Tidy (left ++ right) := by
  intro piece member
  rw [pieces_append first, List.mem_append] at member
  rcases member with before | behind
  · exact first piece before
  · exact second piece behind

/-- Both texts are tidy, and they hold the same tags in the same order. -/
structure Alike (left right : String) : Prop where
  /-- The first text is tidy. -/
  first : Tidy left
  /-- The second text is tidy. -/
  second : Tidy right
  /-- They hold the same tags. -/
  marks : Text.marks left = Text.marks right

/-- A tidy text is like itself. -/
theorem Tidy.alike {text : String} (tidy : Tidy text) : Alike text text := ⟨tidy, tidy, rfl⟩

/-- Plain texts are alike, whatever they say. -/
theorem Plain.alike {left right : String} (first : Plain left) (second : Plain right) :
    Alike left right :=
  ⟨first.tidy, second.tidy, first.marks.trans second.marks.symm⟩

/-- Tidy texts put together hold the tags of both. -/
theorem marks_append {left : String} (tidy : Tidy left) (right : String) :
    marks (left ++ right) = marks left ++ marks right := by
  rw [marks, pieces_append tidy, List.filterMap_append]
  rfl

/-- Texts that are alike may be put together. -/
theorem Alike.append {left right left' right' : String} (front : Alike left right)
    (back : Alike left' right') : Alike (left ++ left') (right ++ right') := by
  refine ⟨front.first.append back.first, front.second.append back.second, ?_⟩
  rw [marks_append front.first, marks_append front.second, front.marks, back.marks]

/-! ## Trimming -/

/-- What is trimmed at the end is blank. -/
theorem dropBlankRight_append (chars : List Char) :
    ∃ blanks, chars = dropBlankRight chars ++ blanks ∧ ∀ c ∈ blanks, isBlank c = true := by
  induction chars with
  | nil => exact ⟨[], rfl, by simp⟩
  | cons c rest inductionHypothesis =>
    obtain ⟨blanks, whole, blank⟩ := inductionHypothesis
    unfold dropBlankRight
    cases kept : dropBlankRight rest with
    | nil =>
      rw [kept] at whole
      by_cases last : isBlank c = true
      · refine ⟨c :: rest, by simp [last], ?_⟩
        rw [whole]
        simpa [last] using blank
      · exact ⟨blanks, by simp [last, whole], blank⟩
    | cons d others =>
      rw [kept] at whole
      exact ⟨blanks, by simp [whole], blank⟩

/-- The pieces of a text are those of the trimmed text, between plain characters. -/
theorem pieces_trim (text : String) :
    ∃ lead tail : List Char,
      pieces text = lead.map .char ++ (pieces (trim text) ++ tail.map .char) := by
  obtain ⟨tail, whole, blank⟩ := dropBlankRight_append (text.toList.dropWhile isBlank)
  have leading : ∀ c ∈ text.toList.takeWhile isBlank, Tag.isPlain c = true := fun c member =>
    isPlain_of_isBlank (List.all_eq_true.mp List.all_takeWhile c member)
  have trailing : ∀ c ∈ tail, Tag.isPlain c = true := fun c member =>
    isPlain_of_isBlank (blank c member)
  have chars : text.toList =
      text.toList.takeWhile isBlank ++ ((trim text).toList ++ tail) := by
    rw [trim, String.toList_ofList, trimChars, ← whole, List.takeWhile_append_dropWhile]
  refine ⟨text.toList.takeWhile isBlank, tail, ?_⟩
  rw [← Piece.scan_plain leading, ← Piece.scan_plain trailing]
  generalize text.toList.takeWhile isBlank = lead at chars leading
  have front : ∀ piece ∈ Piece.scan 0 lead, piece.Tidy := by
    rw [Piece.scan_plain leading]
    intro piece member
    obtain ⟨c, inside, rfl⟩ := List.mem_map.mp member
    exact leading c inside
  rw [pieces, pieces, chars, Piece.scan_append (.inl front), Nat.zero_sub,
    Piece.scan_append (.inr (.of_plain trailing)), Nat.zero_sub]

/-- A tidy text is still tidy when it is trimmed. -/
theorem Tidy.trim {text : String} (tidy : Tidy text) : Tidy (Text.trim text) := by
  obtain ⟨lead, tail, whole⟩ := pieces_trim text
  intro piece member
  apply tidy
  rw [whole]
  exact List.mem_append_right _ (List.mem_append_left _ member)

/-- Trimming leaves all tags. -/
theorem marks_trim (text : String) : marks (trim text) = marks text := by
  obtain ⟨lead, tail, whole⟩ := pieces_trim text
  rw [marks, marks, whole, List.filterMap_append, List.filterMap_append, mark?_chars, mark?_chars,
    List.nil_append, List.append_nil]

/-- Texts that are alike may be trimmed. -/
theorem Alike.trim {left right : String} (alike : Alike left right) :
    Alike (Text.trim left) (Text.trim right) :=
  ⟨alike.first.trim, alike.second.trim, by rw [marks_trim, marks_trim, alike.marks]⟩

end Text

/-! ## Lists in step -/

/-- Two lists are in step if they are the same item by item, but for items of either
one that are gaps. -/
inductive Aligned {α : Type} (gap : α → Prop) (same : α → α → Prop) : List α → List α → Prop where
  /-- Nothing is left. -/
  | nil : Aligned gap same [] []
  /-- A gap in the first list. -/
  | first {item : α} {left right : List α} (fills : gap item) (rest : Aligned gap same left right) :
      Aligned gap same (item :: left) right
  /-- A gap in the second list. -/
  | second {item : α} {left right : List α} (fills : gap item) (rest : Aligned gap same left right) :
      Aligned gap same left (item :: right)
  /-- The next items are the same. -/
  | both {item other : α} {left right : List α} (agree : same item other)
      (rest : Aligned gap same left right) : Aligned gap same (item :: left) (other :: right)

/-- A list is in step with itself. -/
theorem Aligned.refl {α : Type} {gap : α → Prop} {same : α → α → Prop} {items : List α}
    (each : ∀ item ∈ items, same item item) : Aligned gap same items items := by
  induction items with
  | nil => exact .nil
  | cons item rest inductionHypothesis =>
    obtain ⟨here, others⟩ := List.forall_mem_cons.mp each
    exact .both here (inductionHypothesis others)

/-- Lists in step may be changed item by item. -/
theorem Aligned.map {α β : Type} {gap : α → Prop} {same : α → α → Prop} {gap' : β → Prop}
    {same' : β → β → Prop} {change change' : α → β} {left right : List α}
    (aligned : Aligned gap same left right) (first : ∀ item, gap item → gap' (change item))
    (second : ∀ item, gap item → gap' (change' item))
    (both : ∀ item other, same item other → same' (change item) (change' other)) :
    Aligned gap' same' (left.map change) (right.map change') := by
  induction aligned with
  | nil => exact .nil
  | first fills rest inductionHypothesis => exact .first (first _ fills) inductionHypothesis
  | second fills rest inductionHypothesis => exact .second (second _ fills) inductionHypothesis
  | both agree rest inductionHypothesis => exact .both (both _ _ agree) inductionHypothesis

/-- Texts in step are alike when they are put together, with plain texts for gaps. -/
theorem Aligned.join {left right : List String}
    (aligned : Aligned Text.Plain Text.Alike left right) :
    Text.Alike (String.join left) (String.join right) := by
  have empty : Text.Alike "" "" := Text.Plain.alike (by decide) (by decide)
  induction aligned with
  | nil => exact empty
  | @first item left right fills rest inductionHypothesis =>
    rw [String.join_cons, ← String.empty_append (s := String.join right)]
    exact (fills.alike (by decide)).append inductionHypothesis
  | @second item left right fills rest inductionHypothesis =>
    rw [String.join_cons, ← String.empty_append (s := String.join left)]
    exact (Text.Plain.alike (by decide) fills).append inductionHypothesis
  | both agree rest inductionHypothesis =>
    rw [String.join_cons, String.join_cons]
    exact agree.append inductionHypothesis

/-! ## Tags as they are read -/

/-- A tag as it can be read from a text. -/
structure Tag.Proper (mark : Tag) : Prop where
  /-- Its braces are its own. -/
  tidy : Text.Tidy mark.source
  /-- Its name begins and goes on as names do. -/
  named : ∃ first rest, mark.name.toList = first :: rest ∧ startsName first = true ∧
    ∀ c ∈ rest, continuesName c = true
  /-- No brace stands among its attributes. -/
  plain : Text.Plain mark.attributeText

/-- Trimming leaves out characters. -/
theorem Text.mem_trimChars {chars : List Char} {c : Char} (member : c ∈ trimChars chars) :
    c ∈ chars := by
  obtain ⟨blanks, whole, -⟩ := dropBlankRight_append (chars.dropWhile isBlank)
  apply (List.dropWhile_sublist isBlank).subset
  rw [whole]
  exact List.mem_append_left _ member

namespace Tag

/-- The tag of a tag body without braces is proper. -/
theorem proper_of_body {body : List Char} {mark : Tag} (plain : ∀ c ∈ body, isPlain c = true)
    (made : ofBody? body = some mark) : mark.Proper := by
  have whole := Piece.scan_tag plain made
  unfold ofBody? at made
  dsimp only at made
  have inside : ∀ c ∈ if (body.head? == some '/') = true then body.tail else body,
      isPlain c = true := by
    intro c member
    split at member
    · exact plain c (List.mem_of_mem_tail member)
    · exact plain c member
  generalize (if (body.head? == some '/') = true then body.tail else body) = inner at made inside
  split at made
  · rename_i accepted
    obtain rfl := Option.some.inj made
    simp only [Bool.and_eq_true] at accepted
    obtain ⟨⟨starts, -⟩, -⟩ := accepted
    refine ⟨?_, ?_, ?_⟩
    · intro piece member
      rw [Text.pieces, String.toList_ofList, List.singleton_append, whole] at member
      rw [List.mem_singleton.mp member]
      trivial
    · dsimp only
      rw [String.toList_ofList]
      cases name : inner.takeWhile continuesName with
      | nil =>
        rw [name] at starts
        cases starts
      | cons first rest =>
        rw [name] at starts
        refine ⟨first, rest, rfl, starts, fun c member => ?_⟩
        have continued : c ∈ inner.takeWhile continuesName := by
          rw [name]
          exact List.mem_cons_of_mem _ member
        exact List.all_eq_true.mp List.all_takeWhile c continued
    · intro c member
      dsimp only at member
      rw [String.toList_ofList] at member
      exact inside c ((List.dropWhile_sublist _).subset (Text.mem_trimChars member))
  · cases made

/-- Characters of names are no braces. -/
theorem isPlain_of_continuesName {c : Char} (continued : continuesName c = true) :
    isPlain c = true :=
  isPlain_of_test rfl rfl continued

/-- A name is a tag body, alone or with blanks behind it. -/
theorem ofBody?_name {first : Char} {rest behind : List Char} (starts : startsName first = true)
    (continued : ∀ c ∈ rest, continuesName c = true)
    (blank : ∀ c ∈ behind.head?, isBlank c = true ∧ continuesName c = false) :
    ∃ mark, ofBody? (first :: rest ++ behind) = some mark := by
  have apart : first ≠ '/' := by
    rintro rfl
    exact absurd starts (by decide)
  have name : ∀ c ∈ first :: rest, continuesName c = true := by
    intro c member
    rcases List.mem_cons.mp member with rfl | later
    · simp [continuesName, starts]
    · exact continued c later
  have stops : behind.takeWhile continuesName = [] ∧ behind.dropWhile continuesName = behind := by
    cases behind with
    | nil => exact ⟨rfl, rfl⟩
    | cons c others => simp [(blank c rfl).2]
  have blanks : behind.head?.all isBlank = true := by
    cases behind with
    | nil => rfl
    | cons c others => exact (blank c rfl).1
  unfold ofBody?
  dsimp only
  have opens : ((first :: rest ++ behind).head? == some '/') = false := by simp [apart]
  rw [opens, if_neg Bool.false_ne_true, List.takeWhile_append_of_pos name,
    List.dropWhile_append_of_pos name, stops.1, stops.2, List.append_nil, blanks]
  simp [starts]

/-- A proper tag is written afresh with plain attribute text. -/
theorem Proper.withAttributes_tidy {mark : Tag} (proper : mark.Proper) {attributes : Attributes}
    (plain : Text.Plain attributes.toSource) :
    Text.Tidy (mark.withAttributes attributes).source := by
  obtain ⟨first, rest, named, starts, continued⟩ := proper.named
  have bodied (behind : List Char) (inside : ∀ c ∈ behind, isPlain c = true)
      (blank : ∀ c ∈ behind.head?, isBlank c = true ∧ continuesName c = false) :
      ∀ piece ∈ Piece.scan 0 ('\x7b' :: (mark.name.toList ++ behind) ++ ['\x7d']), piece.Tidy := by
    obtain ⟨tag, made⟩ := ofBody?_name starts continued blank
    have body : ∀ c ∈ first :: rest ++ behind, isPlain c = true := by
      intro c member
      rcases List.mem_append.mp member with name | behind
      · rcases List.mem_cons.mp name with rfl | later
        · exact isPlain_of_continuesName (by simp [continuesName, starts])
        · exact isPlain_of_continuesName (continued c later)
      · exact inside c behind
    rw [named, Piece.scan_tag body made]
    intro piece member
    rw [List.mem_singleton.mp member]
    trivial
  intro piece member
  unfold Text.pieces withAttributes opening at member
  dsimp only at member
  split at member
  · refine bodied [] (by simp) (by simp) piece ?_
    simpa using member
  · refine bodied (' ' :: (Text.trim attributes.toSource).toList) ?_ ?_ piece ?_
    · intro c inside
      rcases List.mem_cons.mp inside with rfl | later
      · rfl
      · rw [Text.trim, String.toList_ofList] at later
        exact plain c (Text.mem_trimChars later)
    · intro c first
      obtain rfl := Option.some.inj first
      exact ⟨by decide, by decide⟩
    · simpa using member

end Tag

/-- A tag that is read from characters has its body between two braces among them. -/
theorem Piece.body_of_mem_scan {covered : Nat} {chars : List Char} {mark : Tag}
    (member : .tag mark ∈ scan covered chars) :
    ∃ front body behind, chars = front ++ ('\x7b' :: body ++ ['\x7d']) ++ behind ∧
      (∀ c ∈ body, Tag.isPlain c = true) ∧ Tag.ofBody? body = some mark := by
  induction chars generalizing covered with
  | nil => cases member
  | cons c rest inductionHypothesis =>
    have further {covered : Nat} (later : .tag mark ∈ scan covered rest) :
        ∃ front body behind, c :: rest = front ++ ('\x7b' :: body ++ ['\x7d']) ++ behind ∧
          (∀ c ∈ body, Tag.isPlain c = true) ∧ Tag.ofBody? body = some mark := by
      obtain ⟨front, body, behind, rfl, made⟩ := inductionHypothesis later
      exact ⟨c :: front, body, behind, rfl, made⟩
    cases covered with
    | succ covered => exact further member
    | zero =>
      by_cases alone : c ≠ '\x7b' ∨ Tag.at? rest = none
      · rw [scan_char alone] at member
        rcases List.mem_cons.mp member with same | later
        · cases same
        · exact further later
      · obtain ⟨same, some⟩ := not_or.mp alone
        obtain rfl := Decidable.not_not.mp same
        obtain ⟨⟨other, length⟩, found⟩ := Option.ne_none_iff_exists'.mp some
        rw [scan_open found] at member
        rcases List.mem_cons.mp member with same | later
        · obtain rfl := Piece.tag.inj same
          obtain ⟨body, behind, rfl, plain, made, -⟩ := Tag.at?_eq_some_iff.mp found
          exact ⟨[], body, behind, by simp, plain, made⟩
        · exact further later

/-- Tags that are read from characters are proper. -/
theorem Piece.proper_of_mem_scan {covered : Nat} {chars : List Char} {mark : Tag}
    (member : .tag mark ∈ scan covered chars) : mark.Proper := by
  obtain ⟨-, body, -, -, plain, made⟩ := body_of_mem_scan member
  exact Tag.proper_of_body plain made

/-! ## Tokens -/

namespace Token

/-- The token is a plain text or a proper tag. -/
def Tidy : Token → Prop
  | .text content => Text.Plain content
  | .tag mark => mark.Proper

/-- The tag of the token. -/
def mark? : Token → Option Tag
  | .text _ => none
  | .tag mark => some mark

/-- Grouping characters to texts leaves the tags. -/
theorem marks_group (reversed : List Char) (pieces : List Piece) :
    (group reversed pieces).filterMap mark? = pieces.filterMap Piece.mark? := by
  have run (reversed : List Char) : (ofRun reversed).filterMap mark? = [] := by
    unfold ofRun
    split <;> rfl
  induction pieces generalizing reversed with
  | nil => exact run reversed
  | cons piece rest inductionHypothesis =>
    cases piece with
    | char c => exact inductionHypothesis (c :: reversed)
    | tag mark =>
      rw [group, List.filterMap_append, run, List.nil_append]
      exact congrArg (mark :: ·) (inductionHypothesis [])

/-- The tokens of a tidy text hold its tags. -/
theorem marks_tokenize (text : String) : (tokenize text).filterMap mark? = Text.marks text :=
  marks_group [] _

/-- Grouping plain characters and proper tags gives plain texts and proper tags. -/
theorem tidy_of_mem_group {reversed : List Char} {pieces : List Piece}
    (plain : ∀ c ∈ reversed, Tag.isPlain c = true) (tidy : ∀ piece ∈ pieces, piece.Tidy)
    (proper : ∀ mark, .tag mark ∈ pieces → mark.Proper) :
    ∀ token ∈ group reversed pieces, token.Tidy := by
  have run {reversed : List Char} (plain : ∀ c ∈ reversed, Tag.isPlain c = true) :
      ∀ token ∈ ofRun reversed, token.Tidy := by
    intro token member
    unfold ofRun at member
    split at member
    · cases member
    · rw [List.mem_singleton.mp member]
      intro c inside
      rw [String.toList_ofList, List.mem_reverse] at inside
      exact plain c inside
  induction pieces generalizing reversed with
  | nil => exact run plain
  | cons piece rest inductionHypothesis =>
    have others : ∀ other ∈ rest, other.Tidy := fun other member =>
      tidy other (List.mem_cons_of_mem _ member)
    have marks : ∀ mark, .tag mark ∈ rest → mark.Proper := fun mark member =>
      proper mark (List.mem_cons_of_mem _ member)
    cases piece with
    | char c =>
      refine inductionHypothesis (fun other member => ?_) others marks
      rcases List.mem_cons.mp member with rfl | earlier
      · exact tidy _ List.mem_cons_self
      · exact plain other earlier
    | tag mark =>
      intro token member
      rcases List.mem_append.mp member with text | tagged
      · exact run plain token text
      · rcases List.mem_cons.mp tagged with rfl | later
        · exact proper mark List.mem_cons_self
        · exact inductionHypothesis (by simp) others marks token later

/-- The tokens of a tidy text are plain texts and proper tags. -/
theorem tidy_of_mem_tokenize {text : String} (tidy : Text.Tidy text) :
    ∀ token ∈ tokenize text, token.Tidy :=
  tidy_of_mem_group (by simp) tidy fun _ member => Piece.proper_of_mem_scan member

/-- Characters outside tags stand in some text. -/
theorem mem_text_of_group {reversed : List Char} {pieces : List Piece} {c : Char}
    (member : c ∈ reversed ∨ .char c ∈ pieces) :
    ∃ content, .text content ∈ group reversed pieces ∧ c ∈ content.toList := by
  have run {reversed : List Char} (there : c ∈ reversed) :
      ∃ content, .text content ∈ ofRun reversed ∧ c ∈ content.toList := by
    refine ⟨String.ofList reversed.reverse, ?_, by simpa using there⟩
    cases reversed with
    | nil => cases there
    | cons first others => exact List.mem_singleton.mpr rfl
  induction pieces generalizing reversed with
  | nil =>
    rcases member with collected | none
    · exact run collected
    · cases none
  | cons piece rest inductionHypothesis =>
    cases piece with
    | char d =>
      apply inductionHypothesis
      rcases member with collected | later
      · exact .inl (List.mem_cons_of_mem _ collected)
      · rcases List.mem_cons.mp later with same | behind
        · obtain rfl := Piece.char.inj same
          exact .inl List.mem_cons_self
        · exact .inr behind
    | tag mark =>
      rcases member with collected | later
      · obtain ⟨content, text, inside⟩ := run collected
        exact ⟨content, List.mem_append_left _ text, inside⟩
      · have behind : .char c ∈ rest := by simpa using later
        obtain ⟨content, text, inside⟩ := inductionHypothesis (.inr behind)
        exact ⟨content, List.mem_append_right _ (List.mem_cons_of_mem _ text), inside⟩

/-- A text is tidy if the texts among its tokens are plain. -/
theorem tidy_of_tokens {text : String}
    (plain : ∀ content, .text content ∈ tokenize text → Text.Plain content) : Text.Tidy text := by
  intro piece member
  cases piece with
  | tag mark => trivial
  | char c =>
    obtain ⟨content, among, inside⟩ := mem_text_of_group (.inr member)
    exact plain content among c inside

/-- A token that is no tag is a gap. -/
def Gap (token : Token) : Prop := ∃ content, token = .text content ∧ Text.Plain content

/-- Both tokens are the same tag. -/
def Same (token other : Token) : Prop := ∃ mark : Tag, mark.Proper ∧ token = .tag mark ∧ other = .tag mark

/-- Tidy tokens with the same tags are in step. -/
theorem aligned_of_marks {left right : List Token} (first : ∀ token ∈ left, token.Tidy)
    (second : ∀ token ∈ right, token.Tidy)
    (marks : left.filterMap mark? = right.filterMap mark?) : Aligned Gap Same left right := by
  induction left generalizing right with
  | nil =>
    induction right with
    | nil => exact .nil
    | cons token rest inductionHypothesis =>
      have others := inductionHypothesis fun other member =>
        second other (List.mem_cons_of_mem _ member)
      have plain := second token List.mem_cons_self
      cases token with
      | text content => exact .second ⟨content, rfl, plain⟩ (others marks)
      | tag mark => cases marks
  | cons token rest inductionHypothesis =>
    have tidy := first token List.mem_cons_self
    have others : ∀ other ∈ rest, other.Tidy := fun other member =>
      first other (List.mem_cons_of_mem _ member)
    cases token with
    | text content => exact .first ⟨content, rfl, tidy⟩ (inductionHypothesis others second marks)
    | tag mark =>
      -- The same tag comes next on the right, perhaps behind a text.
      induction right with
      | nil => cases marks
      | cons token behind search =>
        have plain := second token List.mem_cons_self
        have later : ∀ other ∈ behind, other.Tidy := fun other member =>
          second other (List.mem_cons_of_mem _ member)
        cases token with
        | text content => exact .second ⟨content, rfl, plain⟩ (search later marks)
        | tag other =>
          obtain ⟨rfl, same⟩ := List.cons.inj marks
          exact .both ⟨mark, tidy, rfl, rfl⟩ (inductionHypothesis others later same)

end Token

/-- Texts that are alike have tokens in step. -/
theorem Text.Alike.tokens {left right : String} (alike : Alike left right) :
    Aligned Token.Gap Token.Same (Token.tokenize left) (Token.tokenize right) := by
  apply Token.aligned_of_marks
  · exact Token.tidy_of_mem_tokenize alike.first
  · exact Token.tidy_of_mem_tokenize alike.second
  · rw [Token.marks_tokenize, Token.marks_tokenize, alike.marks]

end Formwork
