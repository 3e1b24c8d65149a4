import Formwork.Proofs.DisabledKeys
import Formwork.Proofs.SpelledTexts
import Mathlib.Algebra.Order.BigOperators.Group.List
import Mathlib.Algebra.Order.Ring.Nat

/-!
# Attributes that are written back

Attribute text is read leniently: values in either kind of quotes, bare names, anything
between the pairs, names that repeat. What is read has proper names, each of them once, and
is written in one form, every value in double quotes. Written pairs are read as they are, so
attributes survive being written back unless a value holds a double quote itself, and then
they never do. Such a value can only come from single quotes: to read it again would take
two of them around it, and no single quote is written but those inside values.
-/

namespace Formwork

namespace Attributes

open Text (isBlank)

/-- No value holds a double quote. -/
def Unquoted (attributes : Attributes) : Prop :=
  ∀ pair ∈ attributes.pairs, '"' ∉ pair.2.toList

instance (attributes : Attributes) : Decidable attributes.Unquoted :=
  inferInstanceAs (Decidable (∀ pair ∈ attributes.pairs, '"' ∉ pair.2.toList))

/-! ## What is read -/

/-- A text that can be read as the name of an attribute. -/
def IsName (name : String) : Prop :=
  ∃ first more, name.toList = first :: more ∧ startsName first = true ∧
    ∀ c ∈ more, continuesName c = true

/-- Every pair that is read has such a name. -/
theorem isName_scanPairs {covered : Nat} {chars : List Char} {pair : String × String}
    (member : pair ∈ scanPairs covered chars) : IsName pair.1 := by
  induction chars generalizing covered with
  | nil => cases member
  | cons first rest inductionHypothesis =>
    cases covered with
    | succ covered => exact inductionHypothesis member
    | zero =>
      unfold scanPairs at member
      split at member
      · rename_i starts
        have named : IsName (String.ofList (first :: rest.takeWhile continuesName)) :=
          ⟨first, _, String.toList_ofList, starts,
            fun c inside => List.all_eq_true.mp List.all_takeWhile c inside⟩
        dsimp only at member
        split at member
        · rcases List.mem_cons.mp member with rfl | later
          · exact named
          · exact inductionHypothesis later
        · rcases List.mem_cons.mp member with rfl | later
          · exact named
          · exact inductionHypothesis later
      · exact inductionHypothesis member

/-- Attributes that are read from a text have proper names. -/
theorem isName_parse {text : String} {pair : String × String} (member : pair ∈ (parse text).pairs) :
    IsName pair.1 := by
  rcases mem_setAll member with none | read
  · cases none
  · exact isName_scanPairs read

/-- They have every name once. -/
theorem parse_distinct (text : String) : (parse text).Distinct := by
  have none : empty.Distinct := List.nodup_nil
  exact none.setAll _

/-! ## Reading what was written -/

/-- A pair under a new name is added at the end. -/
theorem setPair_absent {name : String} (value : String) {pairs : List (String × String)}
    (absent : name ∉ pairs.map Prod.fst) : setPair name value pairs = pairs ++ [(name, value)] := by
  induction pairs with
  | nil => rfl
  | cons pair rest inductionHypothesis =>
    obtain ⟨first, stored⟩ := pair
    rw [List.map_cons, List.mem_cons, not_or] at absent
    rw [setPair, if_neg (Ne.symm absent.1), inductionHypothesis absent.2]
    rfl

/-- Pairs with distinct names are collected as they are. -/
theorem setAll_distinct {front pairs : List (String × String)}
    (distinct : ((front ++ pairs).map Prod.fst).Nodup) :
    (Attributes.mk front).setAll pairs = ⟨front ++ pairs⟩ := by
  induction pairs generalizing front with
  | nil => rw [List.append_nil]; rfl
  | cons pair rest inductionHypothesis =>
    obtain ⟨name, value⟩ := pair
    have absent : name ∉ front.map Prod.fst := by
      rw [List.map_append, List.nodup_append] at distinct
      intro member
      exact distinct.2.2 name member name List.mem_cons_self rfl
    have split : front ++ (name, value) :: rest = (front ++ [(name, value)]) ++ rest := by simp
    have step : (Attributes.mk front).setAll ((name, value) :: rest) =
        (Attributes.mk (setPair name value front)).setAll rest := rfl
    rw [step, setPair_absent value absent, inductionHypothesis (by rwa [← split]), split]

/-- What is written behind a pair: nothing if it is the last, else a blank and the others. -/
def behindPair : List (String × String) → List Char
  | [] => []
  | next :: others => ' ' :: (Attributes.mk (next :: others)).toSource.toList

/-- Pairs are written one behind the other. -/
theorem toSource_chars (name value : String) (rest : List (String × String)) :
    (Attributes.mk ((name, value) :: rest)).toSource.toList =
      name.toList ++ '=' :: '"' :: (value.toList ++ '"' :: behindPair rest) := by
  cases rest with
  | nil => simp [toSource, Text.joinWith, behindPair]
  | cons next others => simp [toSource, Text.joinWith, behindPair]

/-- What is written for pairs without double quotes is read as these pairs.

Proof: induction on the pairs. The first one is read as it stands, and the blank in front of
the next one begins no name. -/
theorem scanPairs_toSource {pairs : List (String × String)} (named : ∀ pair ∈ pairs, IsName pair.1)
    (unquoted : (Attributes.mk pairs).Unquoted) :
    scanPairs 0 (Attributes.mk pairs).toSource.toList = pairs := by
  induction pairs with
  | nil => rfl
  | cons pair rest inductionHypothesis =>
    obtain ⟨name, value⟩ := pair
    obtain ⟨⟨first, more, spelled, starts, continued⟩, properly⟩ := List.forall_mem_cons.mp named
    obtain ⟨valued, later⟩ := List.forall_mem_cons.mp unquoted
    have again := inductionHypothesis properly later
    have behind : scanPairs 0 (behindPair rest) = rest := by
      cases rest with
      | nil => rfl
      | cons next others =>
        have blank : startsName ' ' = false := by decide
        rw [behindPair, scanPairs, if_neg (by simp [blank]), again]
    rw [toSource_chars, spelled, List.cons_append, scanPairs_pair starts continued valued, behind,
      ← spelled, String.ofList_toList, String.ofList_toList]

/-- So attributes without double quotes are read as they were written. -/
theorem parse_toSource {attributes : Attributes} (distinct : attributes.Distinct)
    (named : ∀ pair ∈ attributes.pairs, IsName pair.1) (unquoted : attributes.Unquoted) :
    parse attributes.toSource = attributes := by
  obtain ⟨pairs⟩ := attributes
  rw [parse, scanPairs_toSource named unquoted]
  exact setAll_distinct distinct

/-! ## Counting single quotes -/

/-- How many single quotes a text holds. -/
def singleQuotes (text : String) : Nat := text.toList.count '\x27'

/-- How many single quotes it takes to read a value: those inside, and two around it if it
holds a double quote. -/
def quotesToRead (value : String) : Nat :=
  singleQuotes value + if '"' ∈ value.toList then 2 else 0

/-- The single quotes it takes to read all values. -/
def quotesToReadAll (pairs : List (String × String)) : Nat :=
  (pairs.map fun pair => quotesToRead pair.2).sum

/-- A list that is longer than what stands before a mark goes on with the mark. -/
theorem exists_behind_mark {mark : Char} {body : List Char}
    (shorter : (body.takeWhile (· ≠ mark)).length < body.length) :
    ∃ rest, body = body.takeWhile (· ≠ mark) ++ mark :: rest := by
  have whole := List.takeWhile_append_dropWhile (p := (· ≠ mark)) (l := body)
  have stops := List.head?_dropWhile_not (· ≠ mark) body
  cases behind : body.dropWhile (· ≠ mark) with
  | nil =>
    rw [behind, List.append_nil] at whole
    rw [whole] at shorter
    exact absurd shorter (Nat.lt_irrefl _)
  | cons c rest =>
    rw [behind] at stops
    obtain rfl : c = mark := by simpa using stops
    rw [behind] at whole
    exact ⟨rest, whole.symm⟩

/-- A quoted value stands between two quotation marks of one kind, and holds none of them. -/
theorem quotedValue?_parts {chars value : List Char} {length : Nat}
    (found : quotedValue? chars = some (value, length)) :
    ∃ quote front, (quote = '"' ∨ quote = '\x27') ∧ quote ∉ value ∧
      chars = front ++ quote :: (value ++ quote :: chars.drop length) := by
  unfold quotedValue? at found
  split at found
  · rename_i afterEquals equals
    split at found
    · rename_i quote body opened
      dsimp only at found
      split at found
      · rename_i mark
        split at found
        · rename_i shorter
          obtain ⟨rest, closed⟩ := exists_behind_mark shorter
          obtain ⟨valued, counted⟩ := Prod.mk.inj (Option.some.inj found)
          rw [valued] at closed counted
          have unheld : quote ∉ value := by
            intro member
            rw [← valued] at member
            simpa using List.all_eq_true.mp List.all_takeWhile quote member
          have parts : chars = (chars.takeWhile isBlank ++ '=' :: afterEquals.takeWhile isBlank) ++
              quote :: (value ++ quote :: rest) := by
            rw [← closed, List.append_assoc, List.cons_append, ← opened,
              List.takeWhile_append_dropWhile, ← equals, List.takeWhile_append_dropWhile]
          refine ⟨quote, chars.takeWhile isBlank ++ '=' :: afterEquals.takeWhile isBlank, mark,
            unheld, ?_⟩
          generalize front : chars.takeWhile isBlank ++ '=' :: afterEquals.takeWhile isBlank =
            before at parts ⊢
          have lengths : (before ++ quote :: (value ++ [quote])).length = length := by
            rw [← counted, ← front]
            simp
            omega
          have behind : chars.drop length = rest := by
            have skipped : ((before ++ quote :: (value ++ [quote])) ++ rest).drop length = rest :=
              List.drop_left' lengths
            rw [parts]
            simpa using skipped
          rw [behind]
          exact parts
        · cases found
      · cases found
    · cases found
  · cases found

/-- What stands behind a quoted value lacks the single quotes that it took to read it. -/
theorem quotesToRead_quotedValue? {chars value : List Char} {length : Nat}
    (found : quotedValue? chars = some (value, length)) :
    quotesToRead (String.ofList value) + (chars.drop length).count '\x27' ≤ chars.count '\x27' := by
  obtain ⟨quote, front, mark, unheld, parts⟩ := quotedValue?_parts found
  have counted := congrArg (List.count '\x27') parts
  simp only [List.count_append, List.count_cons] at counted
  rw [quotesToRead, singleQuotes, String.toList_ofList]
  rcases mark with rfl | rfl
  · rw [if_neg unheld]
    omega
  · simp only [beq_self_eq_true, if_true] at counted
    split <;> omega

/-- Reading the pairs of a text takes no more single quotes than it holds. -/
theorem quotesToReadAll_scanPairs (covered : Nat) (chars : List Char) :
    quotesToReadAll (scanPairs covered chars) ≤ (chars.drop covered).count '\x27' := by
  induction chars generalizing covered with
  | nil => cases covered <;> exact Nat.le_refl 0
  | cons first rest inductionHypothesis =>
    cases covered with
    | succ covered => exact inductionHypothesis covered
    | zero =>
      have onward : rest.count '\x27' ≤ (first :: rest).count '\x27' := List.count_le_count_cons
      have whole := List.takeWhile_append_dropWhile (p := continuesName) (l := rest)
      have behind (length : Nat) : rest.drop ((rest.takeWhile continuesName).length + length) =
          (rest.dropWhile continuesName).drop length := by
        rw [← List.drop_drop]
        nth_rewrite 2 [← whole]
        rw [List.drop_left]
      rw [List.drop_zero]
      unfold scanPairs
      split
      · dsimp only
        split
        · rename_i value length found
          have read := quotesToRead_quotedValue? found
          have later := inductionHypothesis ((rest.takeWhile continuesName).length + length)
          rw [behind] at later
          have fewer : (rest.dropWhile continuesName).count '\x27' ≤ rest.count '\x27' :=
            (List.dropWhile_sublist _).count_le _
          unfold quotesToReadAll at later ⊢
          rw [List.map_cons, List.sum_cons]
          dsimp only
          omega
        · have later := inductionHypothesis (rest.takeWhile continuesName).length
          have fewer : (rest.drop (rest.takeWhile continuesName).length).count '\x27' ≤
              rest.count '\x27' := (List.drop_sublist _ _).count_le _
          have free : quotesToRead "" = 0 := by decide
          unfold quotesToReadAll at later ⊢
          rw [List.map_cons, List.sum_cons, free]
          omega
      · exact Nat.le_trans (inductionHypothesis 0) onward

/-- Writing a value replaces one or adds one. -/
theorem quotesToReadAll_setPair (name value : String) (pairs : List (String × String)) :
    quotesToReadAll (setPair name value pairs) ≤ quotesToReadAll pairs + quotesToRead value := by
  unfold quotesToReadAll
  induction pairs with
  | nil => simp [setPair]
  | cons pair rest inductionHypothesis =>
    unfold setPair
    split <;> simp only [List.map_cons, List.sum_cons] <;> omega

/-- Writing pairs one after another keeps some of them and drops the others. -/
theorem quotesToReadAll_setAll (attributes : Attributes) (pairs : List (String × String)) :
    quotesToReadAll (attributes.setAll pairs).pairs ≤
      quotesToReadAll attributes.pairs + quotesToReadAll pairs := by
  induction pairs generalizing attributes with
  | nil => exact Nat.le_refl _
  | cons pair rest inductionHypothesis =>
    obtain ⟨name, value⟩ := pair
    calc
      quotesToReadAll ((attributes.set name value).setAll rest).pairs
          ≤ quotesToReadAll (attributes.set name value).pairs + quotesToReadAll rest :=
        inductionHypothesis _
      _ ≤ quotesToReadAll attributes.pairs + quotesToRead value + quotesToReadAll rest :=
        Nat.add_le_add_right (quotesToReadAll_setPair name value attributes.pairs) _
      _ = quotesToReadAll attributes.pairs + quotesToReadAll ((name, value) :: rest) := by
        simp [quotesToReadAll, Nat.add_assoc]

/-- A proper name holds no single quotes. -/
theorem IsName.singleQuotes {name : String} (proper : IsName name) : singleQuotes name = 0 := by
  obtain ⟨first, more, spelled, starts, continued⟩ := proper
  rw [Attributes.singleQuotes, spelled, List.count_eq_zero]
  intro member
  rcases List.mem_cons.mp member with rfl | later
  · exact absurd starts (by decide)
  · exact absurd (continued _ later) (by decide)

/-- The single quotes that are written for pairs with proper names are those of the values. -/
theorem singleQuotes_toSource {pairs : List (String × String)}
    (named : ∀ pair ∈ pairs, IsName pair.1) :
    singleQuotes (Attributes.mk pairs).toSource =
      (pairs.map fun pair => singleQuotes pair.2).sum := by
  induction pairs with
  | nil => rfl
  | cons pair rest inductionHypothesis =>
    obtain ⟨name, value⟩ := pair
    obtain ⟨proper, others⟩ := List.forall_mem_cons.mp named
    have behind : (behindPair rest).count '\x27' =
        (rest.map fun pair => singleQuotes pair.2).sum := by
      rw [← inductionHypothesis others]
      cases rest with
      | nil => rfl
      | cons next more => exact List.count_cons_of_ne (by decide)
    have none : name.toList.count '\x27' = 0 := proper.singleQuotes
    have signs : '=' ≠ '\x27' ∧ '"' ≠ '\x27' := by decide
    rw [singleQuotes, toSource_chars, List.count_append, none, List.count_cons_of_ne signs.1,
      List.count_cons_of_ne signs.2, List.count_append, List.count_cons_of_ne signs.2, behind,
      Nat.zero_add, List.map_cons, List.sum_cons, singleQuotes]

/-- Reading the attributes of a text takes no more single quotes than it holds. -/
theorem quotesToReadAll_parse (text : String) :
    quotesToReadAll (parse text).pairs ≤ singleQuotes text := by
  have collected := quotesToReadAll_setAll empty (scanPairs 0 text.toList)
  have none : quotesToReadAll empty.pairs = 0 := rfl
  rw [none, Nat.zero_add] at collected
  exact Nat.le_trans collected (quotesToReadAll_scanPairs 0 text.toList)

/-- Attributes that are read again as they were hold no double quote in a value.

Proof: reading them takes the single quotes in all values, and two more for each value with
a double quote; there are no others in what is written. -/
theorem unquoted_of_parse_toSource {attributes : Attributes}
    (named : ∀ pair ∈ attributes.pairs, IsName pair.1)
    (again : parse attributes.toSource = attributes) : attributes.Unquoted := by
  have read := quotesToReadAll_parse attributes.toSource
  rw [again, singleQuotes_toSource named] at read
  intro pair member quoted
  have more : singleQuotes pair.2 < quotesToRead pair.2 := by
    rw [quotesToRead, if_pos quoted]
    exact Nat.lt_add_of_pos_right Nat.two_pos
  have fewer : (attributes.pairs.map fun pair => singleQuotes pair.2).sum <
      quotesToReadAll attributes.pairs :=
    List.sum_lt_sum _ _ (fun _ _ => Nat.le_add_right _ _) ⟨pair, member, more⟩
  exact absurd read (Nat.not_le_of_lt fewer)

/-- A text without single quotes has no value with a double quote. -/
theorem parse_unquoted {text : String} (plain : '\x27' ∉ text.toList) :
    (parse text).Unquoted := by
  have none : singleQuotes text = 0 := List.count_eq_zero.mpr plain
  have read := quotesToReadAll_parse text
  rw [none] at read
  intro pair member quoted
  have more : 0 < quotesToRead pair.2 := by
    rw [quotesToRead, if_pos quoted]
    exact Nat.add_pos_right _ Nat.two_pos
  have part : quotesToRead pair.2 ≤ quotesToReadAll (parse text).pairs :=
    List.le_sum_of_mem (List.mem_map.mpr ⟨pair, member, rfl⟩)
  omega

/-! ## Writing into a tag -/

/-- A blank begins no name. -/
theorem isBlank_of_startsName {c : Char} (starts : startsName c = true) : isBlank c = false := by
  rw [Bool.eq_false_iff]
  intro blank
  have apart := Tag.continuesName_of_isBlank blank
  have colon : c ≠ ':' := by
    rintro rfl
    exact absurd blank (by decide)
  unfold startsName at starts
  unfold Tag.continuesName Tag.startsName at apart
  simp_all

/-- The last character that is written is a quotation mark. -/
theorem exists_closing (rest : List (String × String)) :
    ∃ front, '"' :: behindPair rest = front ++ ['"'] := by
  induction rest with
  | nil => exact ⟨[], rfl⟩
  | cons next others inductionHypothesis =>
    obtain ⟨name, value⟩ := next
    obtain ⟨front, closed⟩ := inductionHypothesis
    refine ⟨'"' :: ' ' :: (name.toList ++ '=' :: '"' :: (value.toList ++ front)), ?_⟩
    rw [behindPair, toSource_chars, closed]
    simp

/-- What is written for attributes with proper names has no blanks around it. -/
theorem trim_toSource {attributes : Attributes}
    (named : ∀ pair ∈ attributes.pairs, IsName pair.1) :
    Text.trim attributes.toSource = attributes.toSource := by
  obtain ⟨pairs⟩ := attributes
  cases pairs with
  | nil => rfl
  | cons pair rest =>
    obtain ⟨name, value⟩ := pair
    obtain ⟨first, more, spelled, starts, -⟩ := named (name, value) List.mem_cons_self
    obtain ⟨front, closed⟩ := exists_closing rest
    have chars : (Attributes.mk ((name, value) :: rest)).toSource.toList =
        [] ++ first :: ((more ++ '=' :: '"' :: (value.toList ++ front)) ++ ['"']) := by
      rw [toSource_chars, spelled, closed]
      simp
    apply String.toList_inj.mp
    rw [Text.trim, String.toList_ofList, chars]
    exact Text.trimChars_kept (by simp) (isBlank_of_startsName starts) (by decide)

end Attributes

/-- Attributes survive being written back if and only if no value holds a double quote: for
attributes that are read from any text, and for those of any tag, which are written into the
tag again. If the text has no single quotes, no value does.

Proof: what is read has proper names, each of them once. Written pairs without double quotes
are read as they are; a value with one would take two single quotes more than are written. -/
theorem attributes_rewritten_iff (text : String) (tag : Tag) :
    (Attributes.parse (Attributes.parse text).toSource = Attributes.parse text ↔
      (Attributes.parse text).Unquoted) ∧
    ((tag.withAttributes tag.attributes).attributes = tag.attributes ↔ tag.attributes.Unquoted) ∧
    ('\x27' ∉ text.toList → (Attributes.parse text).Unquoted) := by
  have rewritten (source : String) :
      Attributes.parse (Attributes.parse source).toSource = Attributes.parse source ↔
        (Attributes.parse source).Unquoted :=
    ⟨Attributes.unquoted_of_parse_toSource fun _ => Attributes.isName_parse,
      Attributes.parse_toSource (Attributes.parse_distinct source) fun _ => Attributes.isName_parse⟩
  refine ⟨rewritten text, ?_, Attributes.parse_unquoted⟩
  have trimmed : (tag.withAttributes tag.attributes).attributeText = tag.attributes.toSource :=
    Attributes.trim_toSource fun _ => Attributes.isName_parse
  rw [Tag.attributes, trimmed]
  exact rewritten tag.attributeText

/-- A text without single quotes is read again as it was, and so is a tag whose values hold them
between double quotes. -/
theorem labels_rewritten :
    let tag := Tag.opening "field" "label=\"it's\" ; class='a' class"
    ('\x27' ∉ "class=\"wide\" required".toList ∧
      Attributes.parse (Attributes.parse "class=\"wide\" required").toSource =
        Attributes.parse "class=\"wide\" required") ∧
      (tag.withAttributes tag.attributes).attributes = tag.attributes := by
  intro tag
  have none : '\x27' ∉ "class=\"wide\" required".toList := by decide
  have unquoted : tag.attributes.Unquoted := by decide
  obtain ⟨rewritten, kept, plain⟩ := attributes_rewritten_iff "class=\"wide\" required" tag
  exact ⟨⟨none, rewritten.mpr (plain none)⟩, kept.mpr unquoted⟩

/-- A value with double quotes in single quotes is cut short when it is written back, and what
stood behind the cut becomes a name, in a text as in a tag. -/
theorem quoted_word_lost :
    (Attributes.parse "title='say \"hi\"'").pairs = [("title", "say \"hi\"")] ∧
      (Attributes.parse (Attributes.parse "title='say \"hi\"'").toSource).pairs =
        [("title", "say "), ("hi", "")] ∧
      ((Tag.opening "field" "title='say \"hi\"'").withAttributes
        (Tag.opening "field" "title='say \"hi\"'").attributes).attributes.pairs =
          [("title", "say "), ("hi", "")] := by
  decide

end Formwork
