import Formwork.Proofs.PlainMarkup
import Mathlib.Tactic.SplitIfs

/-!
# Start tags of a page

A page is read from left to right, one character at a time. What is read of a start tag
are its name and the names of its attributes, in the order in which they are written; the
values are passed over, in either quotation marks or in none. Escaped texts begin no tag
and end no value, so the attributes that a tag was written with are the ones that are read.
-/

namespace Formwork.Html

/-- What is read of a start tag. -/
structure StartTag where
  /-- The name of the tag. -/
  name : String
  /-- The names of its attributes, in order. -/
  attributes : List String := []
deriving DecidableEq, Repr

/-- The tag with one more attribute, whose name has the given characters. -/
def StartTag.with (tag : StartTag) (name : List Char) : StartTag :=
  { tag with attributes := tag.attributes ++ [String.ofList name] }

/-- Where a reader of a page stands. -/
inductive Place where
  /-- Outside of markup. -/
  | content
  /-- Behind the bracket that opens markup. -/
  | opened
  /-- In markup that is no start tag. -/
  | passed
  /-- In the name of a tag, behind the given characters. -/
  | tagName (name : List Char)
  /-- Between the attributes of a tag. -/
  | between (tag : StartTag)
  /-- In the name of an attribute, behind the given characters. -/
  | attribute (tag : StartTag) (name : List Char)
  /-- Behind the name of an attribute and a blank. -/
  | behind (tag : StartTag)
  /-- Behind the sign that gives an attribute its value. -/
  | assigned (tag : StartTag)
  /-- In a value between the given marks. -/
  | quoted (tag : StartTag) (mark : Char)
  /-- In a value without marks. -/
  | unquoted (tag : StartTag)
deriving DecidableEq, Repr

/-- What has been read: where the reader stands, and the start tags in front. -/
abbrev Reading := Place × List StartTag

/-- A blank in markup. -/
def isBlank (c : Char) : Bool := c ∈ [' ', '\t', '\n', '\r', '\x0c']

/-- One more character is read. -/
def step : Reading → Char → Reading
  | (.content, tags), c => (if c = '<' then .opened else .content, tags)
  | (.opened, tags), c =>
    if c.isAlpha then (.tagName [c], tags)
    else if c ∈ ['/', '!', '?'] then (.passed, tags)
    else (.content, tags)
  | (.passed, tags), c => (if c = '>' then .content else .passed, tags)
  | (.tagName name, tags), c =>
    if isBlank c ∨ c = '/' then (.between ⟨String.ofList name, []⟩, tags)
    else if c = '>' then (.content, tags ++ [⟨String.ofList name, []⟩])
    else (.tagName (name ++ [c]), tags)
  | (.between tag, tags), c =>
    if isBlank c ∨ c = '/' then (.between tag, tags)
    else if c = '>' then (.content, tags ++ [tag])
    else (.attribute tag [c], tags)
  | (.attribute tag name, tags), c =>
    if c = '=' then (.assigned (tag.with name), tags)
    else if isBlank c then (.behind (tag.with name), tags)
    else if c = '/' then (.between (tag.with name), tags)
    else if c = '>' then (.content, tags ++ [tag.with name])
    else (.attribute tag (name ++ [c]), tags)
  | (.behind tag, tags), c =>
    if isBlank c then (.behind tag, tags)
    else if c = '=' then (.assigned tag, tags)
    else if c = '/' then (.between tag, tags)
    else if c = '>' then (.content, tags ++ [tag])
    else (.attribute tag [c], tags)
  | (.assigned tag, tags), c =>
    if isBlank c then (.assigned tag, tags)
    else if c ∈ ['"', '\x27'] then (.quoted tag c, tags)
    else if c = '>' then (.content, tags ++ [tag])
    else (.unquoted tag, tags)
  | (.quoted tag mark, tags), c =>
    (if c = mark then .between tag else .quoted tag mark, tags)
  | (.unquoted tag, tags), c =>
    if isBlank c then (.between tag, tags)
    else if c = '>' then (.content, tags ++ [tag])
    else (.unquoted tag, tags)

/-- A text is read further. -/
def follow (reading : Reading) (text : String) : Reading := text.toList.foldl step reading

/-- The start tags of a page, in order. -/
def startTags (text : String) : List StartTag := (follow (.content, []) text).2

/-- A character that does not end the name of an attribute. -/
def nameChar (c : Char) : Bool := !(isBlank c || c == '/' || c == '>' || c == '=')

/-- A name that an attribute can have: it is not empty, and no character ends it. -/
def IsAttributeName (name : String) : Prop := name ≠ "" ∧ name.toList.all nameChar = true

instance (name : String) : Decidable (IsAttributeName name) :=
  inferInstanceAs (Decidable (_ ∧ _))

/-! ## Texts one after another -/

/-- What was found before does not matter for one more character. -/
theorem step_behind (found tags : List StartTag) (place : Place) (c : Char) :
    step (place, found ++ tags) c =
      ((step (place, tags) c).1, found ++ (step (place, tags) c).2) := by
  cases place <;> simp only [step] <;> split_ifs <;> simp only [List.append_assoc]

/-- Nor for a text. -/
theorem follow_behind (found tags : List StartTag) (place : Place) (text : String) :
    follow (place, found ++ tags) text =
      ((follow (place, tags) text).1, found ++ (follow (place, tags) text).2) := by
  unfold follow
  induction text.toList generalizing place tags with
  | nil => rfl
  | cons c rest inductionHypothesis =>
    rw [List.foldl_cons, List.foldl_cons, step_behind]
    exact inductionHypothesis _ _

/-- Texts are read one after another. -/
@[simp] theorem follow_append (reading : Reading) (first second : String) :
    follow reading (first ++ second) = follow (follow reading first) second := by
  rw [follow, String.toList_append, List.foldl_append]
  rfl

/-- Characters that lead nowhere are passed over. -/
theorem follow_kept {reading : Reading} {text : String}
    (kept : ∀ c ∈ text.toList, step reading c = reading) : follow reading text = reading :=
  List.foldlRecOn text.toList step (motive := (· = reading)) rfl
    fun _ same c member => same ▸ kept c member

/-- The start tags of a text that stands outside of markup. -/
def Holds (text : String) (tags : List StartTag) : Prop :=
  follow (.content, []) text = (.content, tags)

instance (text : String) (tags : List StartTag) : Decidable (Holds text tags) :=
  inferInstanceAs (Decidable (_ = _))

/-- They are the start tags of the text. -/
theorem Holds.startTags_eq {text : String} {tags : List StartTag} (holds : Holds text tags) :
    startTags text = tags := by
  rw [startTags, holds]

/-- Behind others they are added to them. -/
theorem Holds.follow_eq {text : String} {tags : List StartTag} (holds : Holds text tags)
    (found : List StartTag) : follow (.content, found) text = (.content, found ++ tags) := by
  have behind := follow_behind found [] .content text
  rwa [List.append_nil, holds] at behind

/-- Texts one after another hold their start tags one after another. -/
theorem Holds.append {first second : String} {tags others : List StartTag}
    (left : Holds first tags) (right : Holds second others) :
    Holds (first ++ second) (tags ++ others) := by
  rw [Holds, follow_append, left, right.follow_eq]

/-- Texts joined hold the start tags of each. -/
theorem holds_join {α : Type} {text : α → String} {tags : α → List StartTag} (items : List α)
    (each : ∀ item ∈ items, Holds (text item) (tags item)) :
    Holds (String.join (items.map text)) (items.flatMap tags) := by
  induction items with
  | nil => rfl
  | cons item rest inductionHypothesis =>
    obtain ⟨here, later⟩ := List.forall_mem_cons.mp each
    rw [List.map_cons, String.join_cons, List.flatMap_cons]
    exact here.append (inductionHypothesis later)

/-! ## Escaped texts -/

/-- An escaped text holds no start tag. -/
theorem holds_escape (text : String) : Holds (escape text) [] :=
  follow_kept fun c member => by
    have other : c ≠ '<' := by
      rintro rfl
      exact mem_escape member (by decide)
    rw [step, if_neg other]

/-- An escaped text does not end a value. -/
theorem follow_escape_quoted (tag : StartTag) (text : String) :
    follow (.quoted tag '"', []) (escape text) = (.quoted tag '"', []) :=
  follow_kept fun c member => by
    have other : c ≠ '"' := by
      rintro rfl
      exact mem_escape member (by decide)
    rw [step, if_neg other]

/-! ## Attributes -/

/-- The name of an attribute is read to its end. -/
theorem follow_name {name : String} (named : IsAttributeName name) (tag : StartTag) :
    follow (.between tag, []) name = (.attribute tag name.toList, []) := by
  have inside (first rest : List Char) (chars : rest.all nameChar = true) :
      rest.foldl step (.attribute tag first, []) = (.attribute tag (first ++ rest), []) := by
    induction rest generalizing first with
    | nil => rw [List.append_nil]; rfl
    | cons c others inductionHypothesis =>
      rw [List.all_cons, Bool.and_eq_true] at chars
      obtain ⟨here, later⟩ := chars
      have next : step (.attribute tag first, []) c = (.attribute tag (first ++ [c]), []) := by
        simp_all [step, nameChar]
      rw [List.foldl_cons, next, inductionHypothesis _ later, List.append_assoc]
      rfl
  obtain ⟨nonempty, chars⟩ := named
  rw [ne_eq, ← String.toList_eq_nil_iff] at nonempty
  obtain ⟨c, rest, written⟩ := List.exists_cons_of_ne_nil nonempty
  unfold follow
  rw [written] at chars ⊢
  rw [List.all_cons, Bool.and_eq_true] at chars
  obtain ⟨here, later⟩ := chars
  have begins : step (.between tag, []) c = (.attribute tag [c], []) := by
    simp_all [step, nameChar]
  rw [List.foldl_cons, begins]
  exact inside [c] rest later

/-- An attribute is read by its name. -/
theorem follow_attributeText {name : String} (named : IsAttributeName name) (value : String)
    (tag : StartTag) :
    follow (.between tag, []) (attributeText name value) =
      (.between { tag with attributes := tag.attributes ++ [name] }, []) := by
  have blank : follow (.between tag, []) " " = (.between tag, []) := rfl
  have assigned : follow (.attribute tag name.toList, []) "=\"" =
      (.quoted (tag.with name.toList) '"', []) := rfl
  have ended : follow (.quoted (tag.with name.toList) '"', []) "\"" =
      (.between (tag.with name.toList), []) := rfl
  simp only [attributeText, follow_append]
  rw [blank, follow_name named, assigned, follow_escape_quoted, ended, StartTag.with,
    String.ofList_toList]

/-- Attributes are read by their names, in order. -/
theorem follow_attributesText {pairs : List (String × String)}
    (named : ∀ name ∈ pairs.map Prod.fst, IsAttributeName name) (tag : StartTag) :
    follow (.between tag, []) (attributesText pairs) =
      (.between { tag with attributes := tag.attributes ++ pairs.map Prod.fst }, []) := by
  induction pairs generalizing tag with
  | nil =>
    rw [List.map_nil, List.append_nil]
    rfl
  | cons pair rest inductionHypothesis =>
    obtain ⟨here, later⟩ := List.forall_mem_cons.mp named
    have written : attributesText (pair :: rest) =
        attributeText pair.1 pair.2 ++ attributesText rest := by
      simp [attributesText]
    rw [written, follow_append, follow_attributeText here, inductionHypothesis later]
    simp

/-! ## Start tags -/

/-- A start tag is read by its name and the names of its attributes. -/
theorem follow_startTag {tag : String}
    (opens : follow (.content, []) ("<" ++ tag) = (.tagName tag.toList, []))
    {pairs : List (String × String)} (given : pairs ≠ [])
    (named : ∀ name ∈ pairs.map Prod.fst, IsAttributeName name) :
    follow (.content, []) ("<" ++ tag ++ attributesText pairs) =
      (.between ⟨tag, pairs.map Prod.fst⟩, []) := by
  have blank : follow (.tagName tag.toList, []) " " = (.between ⟨tag, []⟩, []) := by
    have read : follow (.tagName tag.toList, []) " " =
        (.between ⟨String.ofList tag.toList, []⟩, []) := rfl
    rwa [String.ofList_toList] at read
  have between : follow (.between ⟨tag, []⟩, []) " " = (.between ⟨tag, []⟩, []) := rfl
  have entered : follow (.tagName tag.toList, []) (attributesText pairs) =
      follow (.between ⟨tag, []⟩, []) (attributesText pairs) := by
    obtain ⟨pair, rest, rfl⟩ := List.exists_cons_of_ne_nil given
    simp only [attributesText, attributeText, List.map_cons, String.join_cons, follow_append, blank,
      between]
  rw [follow_append, opens, entered, follow_attributesText named]
  rfl

/-- What stands behind the attributes of a start tag ends it and holds the start tags. -/
def Ends (text : String) (tags : List StartTag) : Prop :=
  ∀ tag, follow (.between tag, []) text = (.content, tag :: tags)

/-- A text may follow what ends a start tag. -/
theorem Ends.append {first second : String} {tags others : List StartTag} (ends : Ends first tags)
    (holds : Holds second others) : Ends (first ++ second) (tags ++ others) := by
  intro tag
  rw [follow_append, ends, holds.follow_eq, List.cons_append]

/-- An escaped text may follow, and the end of the element behind it. -/
theorem Ends.content {opening closing : String} (ends : Ends opening [])
    (closed : Holds closing []) (text : String) : Ends (opening ++ escape text ++ closing) [] :=
  (ends.append (holds_escape text)).append closed

/-- A start tag with what stands behind it holds the tag and the start tags behind. -/
theorem Ends.holds {tag : String}
    (opens : follow (.content, []) ("<" ++ tag) = (.tagName tag.toList, []))
    {pairs : List (String × String)} (given : pairs ≠ [])
    (named : ∀ name ∈ pairs.map Prod.fst, IsAttributeName name) {behind : String}
    {tags : List StartTag} (ends : Ends behind tags) :
    Holds ("<" ++ tag ++ attributesText pairs ++ behind) (⟨tag, pairs.map Prod.fst⟩ :: tags) := by
  rw [Holds, follow_append, follow_startTag opens given named, ends]

end Formwork.Html
