import Formwork.Proofs.NothingLost

/-!
# Sections as places among tokens

Which tokens belong to a section can be said without nodes. A closing tag ends the
section of the last opening tag of its name in front of it that no section found
before covers. These are the sections of the nodes, and what a pass that drops some
of them and unwraps the others writes for a token depends on the sections that cover
its place.

The invariant of reading is that the open sections are the opening tags that are still
free, in their places.
-/

namespace Formwork

/-- A section among tokens. -/
structure Span where
  /-- Its opening tag. -/
  opening : Tag
  /-- The place of the opening tag. -/
  first : Nat
  /-- The place of the closing tag. -/
  last : Nat
deriving DecidableEq, Repr

namespace Span

/-- The token at the place is in the section or one of its tags. -/
def covers (span : Span) (place : Nat) : Bool := span.first ≤ place && place ≤ span.last

/-- The token at the place is one of the two tags. -/
def delimits (span : Span) (place : Nat) : Bool := place == span.first || place == span.last

/-- The token with its place, if it is an opening tag of one of the names. -/
def opening? (names : List String) : Token × Nat → Option (Tag × Nat)
  | (.tag mark, place) =>
    if names.any mark.isNamed && !mark.closing then some (mark, place) else none
  | (.text _, _) => none

/-- The opening tags of the names among tokens that no section found covers, last one first. -/
def free (names : List String) (found : List Span) (tokens : List Token) : List (Tag × Nat) :=
  ((tokens.zipIdx.filterMap (opening? names)).filter
    fun entry => !found.any (·.covers entry.2)).reverse

/-- The section that ends with a token behind others, if it is a closing tag of one of the names:
that of the last free opening tag of its name. -/
def ending? (names : List String) (found : List Span) (before : List Token) : Token → Option Span
  | .tag closing =>
    if names.any closing.isNamed && closing.closing then
      ((free names found before).find? fun entry => entry.1.isNamed closing.name).map fun entry =>
        ⟨entry.1, entry.2, before.length⟩
    else none
  | .text _ => none

/-- The sections found before and those that end among further tokens. -/
def further (names : List String) (found : List Span) (before : List Token) :
    List Token → List Span
  | [] => found
  | token :: rest =>
    further names (found ++ (ending? names found before token).toList) (before ++ [token]) rest

/-- The sections of the names among tokens, in the order in which they end. -/
def all (names : List String) (tokens : List Token) : List Span := further names [] [] tokens

/-! ## Free opening tags -/

variable {names : List String} {found : List Span}

/-- A place is covered if it is not in front of the section and not behind it. -/
theorem covers_iff {span : Span} {place : Nat} :
    span.covers place = true ↔ span.first ≤ place ∧ place ≤ span.last := by
  simp [covers]

/-- A place is that of a tag of the section if it is that of one of them. -/
theorem delimits_iff {span : Span} {place : Nat} :
    span.delimits place = true ↔ place = span.first ∨ place = span.last := by
  simp [delimits]

/-- With one more section the tags that it covers are no longer free. -/
theorem free_covered (span : Span) (tokens : List Token) :
    free names (found ++ [span]) tokens =
      (free names found tokens).filter fun entry => !span.covers entry.2 := by
  unfold free
  rw [List.filter_reverse, List.filter_filter]
  congr 2
  funext entry
  rw [List.any_append, List.any_cons, List.any_nil, Bool.or_false, Bool.not_or, Bool.and_comm]

/-- A token that is no opening tag of the names leaves the free tags. -/
theorem free_snoc_none {before : List Token} {token : Token}
    (none : opening? names (token, before.length) = none) :
    free names found (before ++ [token]) = free names found before := by
  unfold free
  rw [List.zipIdx_append, List.filterMap_append, Nat.zero_add, List.zipIdx_singleton,
    List.filterMap_cons_none none, List.filterMap_nil, List.append_nil]

/-- An opening tag of the names behind every section is the last free one. -/
theorem free_snoc_some {before : List Token} {token : Token} {mark : Tag}
    (opens : opening? names (token, before.length) = some (mark, before.length))
    (ended : ∀ span ∈ found, span.last < before.length) :
    free names found (before ++ [token]) = (mark, before.length) :: free names found before := by
  have uncovered : found.any (·.covers before.length) = false := by
    rw [List.any_eq_false]
    intro span member covered
    have := (covers_iff.mp covered).2
    have := ended span member
    omega
  unfold free
  rw [List.zipIdx_append, List.filterMap_append, Nat.zero_add, List.zipIdx_singleton,
    List.filterMap_cons_some opens, List.filterMap_nil, List.filter_append, List.reverse_append,
    List.filter_cons_of_pos (by simp [uncovered]), List.filter_nil]
  rfl

/-! ## Tags of a section -/

/-- A free tag is an opening tag of one of the names in its place. -/
theorem of_mem_free {tokens : List Token} {mark : Tag} {place : Nat}
    (member : (mark, place) ∈ free names found tokens) :
    tokens[place]? = some (.tag mark) ∧ names.any mark.isNamed = true ∧ mark.closing = false := by
  obtain ⟨listed, -⟩ := List.mem_filter.mp (List.mem_reverse.mp member)
  obtain ⟨⟨token, place'⟩, there, opens⟩ := List.mem_filterMap.mp listed
  cases token with
  | text content => cases opens
  | tag other =>
    rw [opening?] at opens
    split at opens
    · rename_i named
      obtain ⟨rfl, rfl⟩ := Prod.mk.inj (Option.some.inj opens)
      rw [Bool.and_eq_true, Bool.not_eq_true'] at named
      exact ⟨List.mk_mem_zipIdx_iff_getElem?.mp there, named⟩
    · cases opens

/-- A section has an opening tag of one of the names, and a closing tag of the same name behind it,
in their places. -/
structure Delimited (names : List String) (tokens : List Token) (span : Span) : Prop where
  /-- The opening tag has one of the names. -/
  named : names.any span.opening.isNamed = true
  /-- It is no closing tag. -/
  opens : span.opening.closing = false
  /-- It stands in its place. -/
  first : tokens[span.first]? = some (.tag span.opening)
  /-- A closing tag of the same name stands in the other place. -/
  last : ∃ closing : Tag, tokens[span.last]? = some (.tag closing) ∧ closing.closing = true ∧
    span.opening.isNamed closing.name = true

/-- A section stays what it is when more is read. -/
theorem Delimited.append {before : List Token} {span : Span}
    (delimited : Delimited names before span) (behind : List Token) :
    Delimited names (before ++ behind) span := by
  have there {place : Nat} {token : Token} (here : before[place]? = some token) :
      (before ++ behind)[place]? = some token := by
    obtain ⟨inside, -⟩ := List.getElem?_eq_some_iff.mp here
    rw [List.getElem?_append_left inside, here]
  obtain ⟨named, opens, first, closing, last, both⟩ := delimited
  exact ⟨named, opens, there first, closing, there last, both⟩

/-- The section that ends with a token is delimited. -/
theorem delimited_of_ending {before : List Token} {token : Token} {span : Span}
    (ends : ending? names found before token = some span) :
    Delimited names (before ++ [token]) span := by
  cases token with
  | text content => cases ends
  | tag closing =>
    rw [ending?] at ends
    split at ends
    · rename_i closes
      obtain ⟨⟨opening, first⟩, partner, rfl⟩ := Option.map_eq_some_iff.mp ends
      obtain ⟨there, named, opens⟩ := of_mem_free (List.mem_of_find?_eq_some partner)
      obtain ⟨inside, -⟩ := List.getElem?_eq_some_iff.mp there
      have same := List.find?_some partner
      refine ⟨named, opens, ?_, closing, ?_, (Bool.and_eq_true_iff.mp closes).2, same⟩
      · rw [List.getElem?_append_left inside, there]
      · rw [List.getElem?_append_right (Nat.le_refl _), Nat.sub_self]
        rfl
    · cases ends

/-- All sections are delimited. -/
theorem all_delimited (names : List String) (tokens : List Token) :
    ∀ span ∈ all names tokens, Delimited names tokens span := by
  have further (tokens before : List Token) (found : List Span)
      (delimited : ∀ span ∈ found, Delimited names before span) :
      ∀ span ∈ further names found before tokens, Delimited names (before ++ tokens) span := by
    induction tokens generalizing before found with
    | nil =>
      rw [List.append_nil]
      exact delimited
    | cons token rest inductionHypothesis =>
      rw [← List.singleton_append, ← List.append_assoc]
      refine inductionHypothesis _ _ fun span member => ?_
      rcases List.mem_append.mp member with earlier | ends
      · exact (delimited span earlier).append [token]
      · exact delimited_of_ending (Option.mem_toList.mp ends)
  exact further tokens [] [] fun _ member => absurd member List.not_mem_nil

end Span

/-! ## Sections of nodes -/

namespace Node

mutual

/-- The sections of a node whose first token has the given place. -/
def spans (place : Nat) : Node → List Span
  | .text _ => []
  | .tag _ => []
  | .section opening children _ =>
    ⟨opening, place, place + (tokensAll children).length + 1⟩ :: spansAll (place + 1) children

/-- The sections of nodes whose first token has the given place. -/
def spansAll (place : Nat) : List Node → List Span
  | [] => []
  | node :: rest => node.spans place ++ spansAll (place + node.tokens.length) rest

end

/-- Nodes put together have the sections of both. -/
theorem spansAll_append (place : Nat) (left right : List Node) :
    spansAll place (left ++ right) =
      spansAll place left ++ spansAll (place + (tokensAll left).length) right := by
  induction left generalizing place with
  | nil => rfl
  | cons node rest inductionHypothesis =>
    rw [List.cons_append, spansAll, spansAll, inductionHypothesis, List.append_assoc, tokensAll,
      List.length_append, Nat.add_assoc]

/-- A section lies between two places if its tags do, one behind the other. -/
structure Between (low high : Nat) (span : Span) : Prop where
  /-- The opening tag is not in front of the first place. -/
  first : low ≤ span.first
  /-- The closing tag is behind the opening tag. -/
  ordered : span.first < span.last
  /-- The closing tag is in front of the second place. -/
  last : span.last < high

mutual

/-- The sections of a node lie among its tokens. -/
theorem spans_between (place : Nat) : ∀ node : Node,
    ∀ span ∈ node.spans place, Between place (place + node.tokens.length) span
  | .text _ => fun _ member => absurd member List.not_mem_nil
  | .tag _ => fun _ member => absurd member List.not_mem_nil
  | .section opening children closing => by
    intro span member
    rw [tokens, List.length_cons, List.length_append, List.length_singleton]
    rcases List.mem_cons.mp member with rfl | inside
    · constructor <;> dsimp only <;> omega
    · obtain ⟨first, ordered, last⟩ := spansAll_between (place + 1) children span inside
      constructor <;> omega

/-- So do the sections of nodes. -/
theorem spansAll_between (place : Nat) : ∀ nodes : List Node,
    ∀ span ∈ spansAll place nodes, Between place (place + (tokensAll nodes).length) span
  | [] => fun _ member => absurd member List.not_mem_nil
  | node :: rest => by
    intro span member
    rw [tokensAll, List.length_append]
    rcases List.mem_append.mp member with here | later
    · obtain ⟨first, ordered, last⟩ := spans_between place node span here
      constructor <;> omega
    · obtain ⟨first, ordered, last⟩ := spansAll_between _ rest span later
      constructor <;> omega

end

namespace Frame

/-- The opening tags of open sections behind so many tokens, innermost first, with their places. -/
def placed (start : Nat) : List Frame → List (Tag × Nat)
  | [] => []
  | frame :: outer => (frame.opening, start + (Frame.tokens outer).length) :: placed start outer

/-- The sections found in open sections behind so many tokens. -/
def spans (start : Nat) : List Frame → List Span
  | [] => []
  | frame :: outer =>
    spans start outer ++ spansAll (start + (Frame.tokens outer).length + 1) frame.children

/-- The open sections begin in front of what is read next. -/
theorem placed_before (start : Nat) (frames : List Frame) :
    ∀ entry ∈ placed start frames, entry.2 < start + (Frame.tokens frames).length := by
  induction frames with
  | nil => exact fun _ member => absurd member List.not_mem_nil
  | cons frame outer inductionHypothesis =>
    intro entry member
    rw [Frame.tokens, List.length_append, List.length_cons]
    rcases List.mem_cons.mp member with rfl | before
    · dsimp only
      omega
    · have := inductionHypothesis entry before
      omega

/-- Sections in open sections lie among the tokens read. -/
theorem spans_between (start : Nat) (frames : List Frame) :
    ∀ span ∈ spans start frames, Between start (start + (Frame.tokens frames).length) span := by
  induction frames with
  | nil => exact fun _ member => absurd member List.not_mem_nil
  | cons frame outer inductionHypothesis =>
    intro span member
    rw [Frame.tokens, List.length_append, List.length_cons]
    rcases List.mem_append.mp member with further | here
    · obtain ⟨first, ordered, last⟩ := inductionHypothesis span further
      constructor <;> omega
    · obtain ⟨first, ordered, last⟩ := spansAll_between _ frame.children span here
      constructor <;> omega

/-- Whether an open section has a name is seen from the opening tags. -/
theorem any_placed (start : Nat) (frames : List Frame) (named : Tag → Bool) :
    (placed start frames).any (fun entry => named entry.1) =
      frames.any fun frame => named frame.opening := by
  induction frames with
  | nil => rfl
  | cons frame outer inductionHypothesis =>
    rw [placed, List.any_cons, List.any_cons, inductionHypothesis]

end Frame

namespace Forest

/-- The opening tags of the open sections, innermost first, with their places. -/
def placed (forest : Forest) : List (Tag × Nat) :=
  Frame.placed (tokensAll forest.roots).length forest.pending

/-- The sections found. -/
def spans (forest : Forest) : List Span :=
  spansAll 0 forest.roots ++ Frame.spans (tokensAll forest.roots).length forest.pending

/-- The sections found lie among the tokens read. -/
theorem spans_between (forest : Forest) :
    ∀ span ∈ forest.spans, Between 0 forest.tokens.length span := by
  intro span member
  rw [tokens, List.length_append]
  rcases List.mem_append.mp member with outside | inside
  · obtain ⟨first, ordered, last⟩ := spansAll_between 0 forest.roots span outside
    constructor <;> omega
  · obtain ⟨first, ordered, last⟩ := Frame.spans_between _ forest.pending span inside
    constructor <;> omega

/-- Attaching nodes leaves the open sections. -/
theorem placed_attach (nodes : List Node) (forest : Forest) :
    (forest.attach nodes).placed = forest.placed := by
  obtain ⟨pending, roots⟩ := forest
  cases pending <;> rfl

/-- Attaching nodes adds their sections. -/
theorem spans_attach (nodes : List Node) (forest : Forest) :
    (forest.attach nodes).spans = forest.spans ++ spansAll forest.tokens.length nodes := by
  obtain ⟨pending, roots⟩ := forest
  cases pending with
  | nil => simp [attach, spans, tokens, Frame.tokens, Frame.spans, spansAll_append]
  | cons frame outer =>
    have place : (tokensAll roots).length + (Frame.tokens outer).length + 1 +
        (tokensAll frame.children).length = (tokensAll roots ++ (Frame.tokens outer ++
          .tag frame.opening :: tokensAll frame.children)).length := by
      simp
      omega
    rw [attach, spans, spans, tokens, Frame.spans, Frame.spans, Frame.tokens, spansAll_append,
      place, List.append_assoc, List.append_assoc]

/-- A section that falls apart leaves the sections in it. -/
theorem spansAll_loosen (place : Nat) (frame : Frame) (inner : List Node) :
    spansAll place (loosen frame inner) = spansAll (place + 1) frame.children ++
      spansAll (place + 1 + (tokensAll frame.children).length) inner := by
  rw [loosen, List.cons_append, spansAll, Node.spans, List.nil_append, spansAll_append]
  rfl

/-- Of the open sections a closing tag that pairs leaves those that begin in front of the one that it
ends. -/
theorem close_placed {closing : Tag} {roots : List Node} {frames : List Frame} {opening : Tag}
    {first : Nat} (inner : List Node)
    (found : (Frame.placed (tokensAll roots).length frames).find?
      (fun entry => entry.1.isNamed closing.name) = some (opening, first)) :
    (close closing roots inner frames).placed =
      (Frame.placed (tokensAll roots).length frames).filter fun entry => entry.2 < first := by
  induction frames generalizing inner with
  | nil => cases found
  | cons frame outer inductionHypothesis =>
    have before := Frame.placed_before (tokensAll roots).length outer
    rw [Frame.placed, List.find?_cons] at found
    unfold close
    cases named : frame.opening.isNamed closing.name with
    | true =>
      rw [named] at found
      obtain ⟨rfl, rfl⟩ := Prod.mk.inj (Option.some.inj found)
      rw [if_pos rfl, placed_attach, Frame.placed, List.filter_cons_of_neg (by simp)]
      refine (List.filter_eq_self.mpr fun entry member => ?_).symm
      exact decide_eq_true (before entry member)
    | false =>
      rw [named] at found
      have behind := before _ (List.mem_of_find?_eq_some found)
      rw [if_neg Bool.false_ne_true, inductionHypothesis _ found, Frame.placed,
        List.filter_cons_of_neg]
      rw [decide_eq_true_eq]
      dsimp only at behind ⊢
      omega

/-- A closing tag that pairs adds one section, that of the innermost open section of its name. -/
theorem mem_close_spans {closing : Tag} {roots : List Node} {frames : List Frame} {opening : Tag}
    {first : Nat} (inner : List Node)
    (found : (Frame.placed (tokensAll roots).length frames).find?
      (fun entry => entry.1.isNamed closing.name) = some (opening, first)) (span : Span) :
    span ∈ (close closing roots inner frames).spans ↔
      span ∈ spansAll 0 roots ++ (Frame.spans (tokensAll roots).length frames ++
        spansAll ((tokensAll roots).length + (Frame.tokens frames).length) inner) ∨
      span = ⟨opening, first,
        (tokensAll roots).length + (Frame.tokens frames).length + (tokensAll inner).length⟩ := by
  induction frames generalizing inner with
  | nil => cases found
  | cons frame outer inductionHypothesis =>
    have place : (tokensAll roots).length + (Frame.tokens (frame :: outer)).length =
        (tokensAll roots).length + (Frame.tokens outer).length + 1 +
          (tokensAll frame.children).length := by
      rw [Frame.tokens, List.length_append, List.length_cons]
      omega
    rw [Frame.placed, List.find?_cons] at found
    unfold close
    rw [place, Frame.spans]
    cases named : frame.opening.isNamed closing.name with
    | true =>
      rw [named] at found
      obtain ⟨rfl, rfl⟩ := Prod.mk.inj (Option.some.inj found)
      have last : (tokensAll roots).length + (Frame.tokens outer).length +
          (tokensAll (frame.children ++ inner)).length + 1 =
            (tokensAll roots).length + (Frame.tokens outer).length + 1 +
              (tokensAll frame.children).length + (tokensAll inner).length := by
        rw [tokensAll_append, List.length_append]
        omega
      rw [if_pos rfl, spans_attach, spans, tokens, List.length_append, spansAll, spansAll,
        List.append_nil, Node.spans, spansAll_append, last]
      simp only [List.mem_append, List.mem_cons, or_assoc, or_comm]
    | false =>
      rw [named] at found
      have last : (tokensAll roots).length + (Frame.tokens outer).length +
          (tokensAll (loosen frame inner)).length =
            (tokensAll roots).length + (Frame.tokens outer).length + 1 +
              (tokensAll frame.children).length + (tokensAll inner).length := by
        rw [tokensAll_loosen, List.length_cons, List.length_append]
        omega
      rw [if_neg Bool.false_ne_true, inductionHypothesis _ found, spansAll_loosen, last]
      simp only [List.mem_append, or_assoc]

/-- What falls apart at the end leaves the sections in it. -/
theorem finish_spans (forest : Forest) : spansAll 0 forest.finish = forest.spans := by
  have fallen (start : Nat) (frames : List Frame) (inner : List Node) :
      spansAll start (frames.foldl (fun inner frame => loosen frame inner) inner) =
        Frame.spans start frames ++ spansAll (start + (Frame.tokens frames).length) inner := by
    induction frames generalizing inner with
    | nil => rfl
    | cons frame outer inductionHypothesis =>
      rw [List.foldl_cons, inductionHypothesis, spansAll_loosen, Frame.spans, Frame.tokens,
        List.length_append, List.length_cons, List.append_assoc]
      congr 3
      omega
  rw [finish, spans, spansAll_append, fallen, Nat.zero_add, spansAll, List.append_nil]

/-- The open sections and the sections found are those that the tokens read so far have. -/
structure Tracks (names : List String) (forest : Forest) (before : List Token)
    (found : List Span) : Prop where
  /-- These are the tokens read. -/
  tokens : forest.tokens = before
  /-- These are the sections found. -/
  spans : ∀ span, span ∈ found ↔ span ∈ forest.spans
  /-- The open sections are the opening tags that are still free. -/
  free : Span.free names found before = forest.placed

variable {names : List String} {forest : Forest} {before : List Token} {found : List Span}

/-- Attaching a node for a token that is no free opening tag and ends no section keeps this. -/
theorem Tracks.attach (tracks : forest.Tracks names before found) {token : Token} {node : Node}
    (single : node.tokens = [token]) (alone : ∀ place, node.spans place = [])
    (opens : Span.opening? names (token, before.length) = none) :
    (forest.attach [node]).Tracks names (before ++ [token]) found := by
  refine ⟨?_, fun span => ?_, ?_⟩
  · rw [tokens_attach, tracks.tokens, tokensAll, tokensAll, single, List.append_nil]
  · rw [spans_attach, spansAll, spansAll, alone, List.append_nil, List.append_nil]
    exact tracks.spans span
  · rw [placed_attach, Span.free_snoc_none opens]
    exact tracks.free

/-- The sections found lie in front of what is read next. -/
theorem Tracks.ended (tracks : forest.Tracks names before found) :
    ∀ span ∈ found, span.last < before.length := by
  intro span member
  rw [← tracks.tokens]
  exact (forest.spans_between span ((tracks.spans span).mp member)).last

/-- There are as many tokens as were read outside the open sections and in them. -/
theorem Tracks.length (tracks : forest.Tracks names before found) :
    before.length = (tokensAll forest.roots).length + (Frame.tokens forest.pending).length := by
  rw [← tracks.tokens, Forest.tokens, List.length_append]

/-- A closing tag that pairs keeps this: the tags that its section covers are no longer free. -/
theorem Tracks.close (tracks : forest.Tracks names before found) {closing : Tag}
    (closes : closing.closing = true) {opening : Tag} {first : Nat}
    (partner : forest.placed.find? (fun entry => entry.1.isNamed closing.name) =
      some (opening, first)) :
    (Forest.close closing forest.roots [] forest.pending).Tracks names (before ++ [.tag closing])
      (found ++ [⟨opening, first, before.length⟩]) := by
  have opens : Span.opening? names (.tag closing, before.length) = none := by
    rw [Span.opening?, closes, Bool.not_true, Bool.and_false, if_neg Bool.false_ne_true]
  refine ⟨?_, fun span => ?_, ?_⟩
  · rw [tokens_close, ← tracks.tokens, tokensAll, List.append_nil]
    rfl
  · rw [mem_close_spans [] partner, List.mem_append, List.mem_singleton, tracks.spans, spansAll,
      List.append_nil, tokensAll, List.length_nil, Nat.add_zero, ← tracks.length]
    rfl
  · rw [close_placed [] partner, Span.free_snoc_none opens, Span.free_covered, tracks.free]
    refine List.filter_congr fun entry member => ?_
    have before := Frame.placed_before _ _ entry member
    rw [← tracks.length] at before
    rw [Bool.eq_iff_iff, Bool.not_eq_true', ← Bool.not_eq_true, Span.covers_iff, decide_eq_true_eq]
    dsimp only
    omega

/-- Reading a token keeps this. -/
theorem Tracks.read (tracks : forest.Tracks names before found) (token : Token) :
    (forest.read names token).Tracks names (before ++ [token])
      (found ++ (Span.ending? names found before token).toList) := by
  cases token with
  | text content =>
    rw [Span.ending?, Option.toList_none, List.append_nil]
    exact tracks.attach rfl (fun _ => rfl) rfl
  | tag mark =>
    have paired := Frame.any_placed (tokensAll forest.roots).length forest.pending
      fun opening => opening.isNamed mark.name
    rcases read_tag_cases names forest mark with ⟨unnamed, reads⟩ | ⟨named, opens, reads⟩ |
      ⟨named, closes, pairs, reads⟩ | ⟨named, closes, alone, reads⟩
    · have opens : Span.opening? names (.tag mark, before.length) = none := by
        rw [Span.opening?, unnamed, Bool.false_and, if_neg Bool.false_ne_true]
      rw [reads, Span.ending?, unnamed, Bool.false_and, if_neg Bool.false_ne_true,
        Option.toList_none, List.append_nil]
      exact tracks.attach rfl (fun _ => rfl) opens
    · have opened : Span.opening? names (.tag mark, before.length) = some (mark, before.length) := by
        rw [Span.opening?, named, opens, Bool.not_false, Bool.and_self, if_pos rfl]
      have whole := tokens_read names forest (.tag mark)
      rw [tracks.tokens, reads] at whole
      rw [reads, Span.ending?, opens, Bool.and_false, if_neg Bool.false_ne_true, Option.toList_none,
        List.append_nil]
      refine ⟨whole, fun span => ?_, ?_⟩
      · rw [tracks.spans, Forest.spans, Forest.spans, Frame.spans, spansAll, List.append_nil]
      · rw [Span.free_snoc_some opened tracks.ended, tracks.free, tracks.length]
        rfl
    · rw [reads, Span.ending?, named, closes, Bool.and_self, if_pos rfl, tracks.free]
      rw [pairs] at paired
      obtain ⟨⟨opening, first⟩, partner⟩ :=
        Option.isSome_iff_exists.mp (List.find?_isSome.mpr (List.any_eq_true.mp paired))
      rw [placed, partner, Option.map_some, Option.toList_some]
      exact tracks.close closes partner
    · have opens : Span.opening? names (.tag mark, before.length) = none := by
        rw [Span.opening?, closes, Bool.not_true, Bool.and_false, if_neg Bool.false_ne_true]
      rw [alone, List.any_eq_false] at paired
      rw [reads, Span.ending?, named, closes, Bool.and_self, if_pos rfl, tracks.free, placed,
        List.find?_eq_none.mpr paired, Option.map_none, Option.toList_none, List.append_nil]
      exact tracks.attach rfl (fun _ => rfl) opens

/-- So does reading tokens one after another. -/
theorem Tracks.reads (tracks : forest.Tracks names before found) (tokens : List Token) :
    (tokens.foldl (Forest.read names) forest).Tracks names (before ++ tokens)
      (Span.further names found before tokens) := by
  induction tokens generalizing forest before found with
  | nil =>
    rw [List.append_nil]
    exact tracks
  | cons token rest inductionHypothesis =>
    have further := inductionHypothesis (tracks.read token)
    rw [List.append_assoc, List.singleton_append] at further
    exact further

end Forest

/-- The sections of the nodes are the sections among the tokens, in their places. -/
theorem mem_spansAll_iff (names : List String) (tokens : List Token) (span : Span) :
    span ∈ spansAll 0 (ofTokens names tokens) ↔ span ∈ Span.all names tokens := by
  have started : Forest.Tracks names {} [] [] := ⟨rfl, fun _ => Iff.rfl, rfl⟩
  rw [ofTokens, Forest.finish_spans, Span.all, ← (started.reads tokens).spans]

/-! ## Dropping and unwrapping sections -/

mutual

/-- What is written for a node when sections with certain opening tags are dropped, the other
sections lose their tags, and every other token is written on its own. -/
def settle (drops : Tag → Bool) (write : Token → String) : Node → String
  | .text content => write (.text content)
  | .tag mark => write (.tag mark)
  | .section opening children _ => if drops opening then "" else settleAll drops write children

/-- What is written for nodes in this way. -/
def settleAll (drops : Tag → Bool) (write : Token → String) : List Node → String
  | [] => ""
  | node :: rest => settle drops write node ++ settleAll drops write rest

end

end Node

namespace Span

/-- The section keeps the token at a place from being written: it is dropped and covers the place,
or the token is one of its tags. -/
def silences (drops : Tag → Bool) (span : Span) (place : Nat) : Bool :=
  drops span.opening && span.covers place || span.delimits place

/-- What is written for a token at its place. -/
def settled (drops : Tag → Bool) (write : Token → String) (spans : List Span)
    (entry : Token × Nat) : String :=
  if spans.any (·.silences drops entry.2) then "" else write entry.1

/-- Sections have no say outside their places. -/
theorem silences_outside {drops : Tag → Bool} {spans : List Span} {low high place : Nat}
    (between : ∀ span ∈ spans, Node.Between low high span) (outside : place < low ∨ high ≤ place) :
    spans.any (·.silences drops place) = false := by
  rw [List.any_eq_false]
  intro span member
  obtain ⟨first, ordered, last⟩ := between span member
  rw [silences, Bool.or_eq_true, Bool.and_eq_true, covers_iff, delimits_iff]
  omega

/-- Tokens that the same sections keep from being written are written alike. -/
theorem settled_congr {drops : Tag → Bool} {write : Token → String} {spans others : List Span}
    {entries : List (Token × Nat)} (same : ∀ entry ∈ entries,
      spans.any (·.silences drops entry.2) = others.any (·.silences drops entry.2)) :
    entries.map (settled drops write spans) = entries.map (settled drops write others) := by
  refine List.map_congr_left fun entry member => ?_
  rw [settled, settled, same entry member]

/-- Nothing is written if every token is kept from it. -/
theorem join_silenced {drops : Tag → Bool} {write : Token → String} {spans : List Span}
    {entries : List (Token × Nat)}
    (each : ∀ entry ∈ entries, spans.any (·.silences drops entry.2) = true) :
    String.join (entries.map (settled drops write spans)) = "" := by
  induction entries with
  | nil => rfl
  | cons entry rest inductionHypothesis =>
    obtain ⟨here, others⟩ := List.forall_mem_cons.mp each
    rw [List.map_cons, String.join_cons, settled, if_pos here, inductionHypothesis others]
    rfl

end Span

namespace Node

mutual

/-- What is written for a node is what is written for its tokens in their places. -/
theorem settle_eq (drops : Tag → Bool) (write : Token → String) (place : Nat) : ∀ node : Node,
    settle drops write node =
      String.join ((node.tokens.zipIdx place).map (Span.settled drops write (node.spans place)))
  | .text content => by simp [settle, tokens, spans, Span.settled]
  | .tag mark => by simp [settle, tokens, spans, Span.settled]
  | .section opening children closing => by
    have length : (Node.section opening children closing).tokens.length =
        (tokensAll children).length + 2 := by
      rw [tokens, List.length_cons, List.length_append]
      rfl
    cases dropped : drops opening with
    | true =>
      -- The section covers all of its tokens.
      rw [settle, dropped, if_pos rfl, Span.join_silenced]
      intro entry member
      have first := List.le_snd_of_mem_zipIdx member
      have last := List.snd_lt_add_of_mem_zipIdx member
      rw [spans, List.any_cons, Span.silences, dropped, Bool.true_and, Bool.or_eq_true,
        Bool.or_eq_true, Span.covers_iff]
      dsimp only
      omega
    | false =>
      have opened : ((spans place (.section opening children closing)).any
          (·.silences drops place)) = true := by
        rw [spans, List.any_cons, Span.silences, Span.delimits, beq_self_eq_true]
        simp
      have closed : ((spans place (.section opening children closing)).any
          (·.silences drops (place + 1 + (tokensAll children).length))) = true := by
        rw [spans, List.any_cons, Span.silences, Span.delimits, Nat.add_right_comm place 1,
          beq_self_eq_true]
        simp
      -- Between its tags the section itself has no say.
      have inside : ∀ entry ∈ (tokensAll children).zipIdx (place + 1),
          (spans place (.section opening children closing)).any (·.silences drops entry.2) =
            (spansAll (place + 1) children).any (·.silences drops entry.2) := by
        intro entry member
        have first := List.le_snd_of_mem_zipIdx member
        have last := List.snd_lt_add_of_mem_zipIdx member
        have apart : (⟨opening, place, place + (tokensAll children).length + 1⟩ :
            Span).silences drops entry.2 = false := by
          rw [Span.silences, dropped, Bool.false_and, Bool.false_or, ← Bool.not_eq_true,
            Span.delimits_iff]
          dsimp only
          omega
        rw [spans, List.any_cons, apart, Bool.false_or]
      rw [settle, dropped, if_neg Bool.false_ne_true, tokens, List.zipIdx_cons,
        List.zipIdx_append, List.zipIdx_singleton, List.map_cons, List.map_append, List.map_cons,
        List.map_nil, Span.settled_congr inside, String.join_cons, String.join_append,
        String.join_cons, String.join_nil, Span.settled, if_pos opened, Span.settled, if_pos closed,
        ← settleAll_eq drops write _ children, String.empty_append, String.append_empty,
        String.append_empty]

/-- So it is for nodes. -/
theorem settleAll_eq (drops : Tag → Bool) (write : Token → String) (place : Nat) :
    ∀ nodes : List Node, settleAll drops write nodes =
      String.join
        (((tokensAll nodes).zipIdx place).map (Span.settled drops write (spansAll place nodes)))
  | [] => rfl
  | node :: rest => by
    have here : ∀ entry ∈ node.tokens.zipIdx place,
        (node.spans place ++ spansAll (place + node.tokens.length) rest).any
            (·.silences drops entry.2) = (node.spans place).any (·.silences drops entry.2) := by
      intro entry member
      rw [List.any_append, Span.silences_outside (spansAll_between _ rest)
        (.inl (List.snd_lt_add_of_mem_zipIdx member)), Bool.or_false]
    have later : ∀ entry ∈ (tokensAll rest).zipIdx (place + node.tokens.length),
        (node.spans place ++ spansAll (place + node.tokens.length) rest).any
            (·.silences drops entry.2) =
          (spansAll (place + node.tokens.length) rest).any (·.silences drops entry.2) := by
      intro entry member
      rw [List.any_append, Span.silences_outside (spans_between place node)
        (.inr (List.le_snd_of_mem_zipIdx member)), Bool.false_or]
    rw [settleAll, tokensAll, spansAll, List.zipIdx_append, List.map_append, String.join_append,
      Span.settled_congr here, Span.settled_congr later, ← settle_eq drops write place node,
      ← settleAll_eq drops write _ rest]

end

/-- What is written for the nodes of tokens depends on the sections among the tokens alone. -/
theorem settleAll_ofTokens (drops : Tag → Bool) (write : Token → String) (names : List String)
    (tokens : List Token) : settleAll drops write (ofTokens names tokens) =
      String.join (tokens.zipIdx.map (Span.settled drops write (Span.all names tokens))) := by
  rw [settleAll_eq drops write 0, tokensAll_ofTokens]
  congr 1
  refine Span.settled_congr fun entry _ => ?_
  rw [Bool.eq_iff_iff, List.any_eq_true, List.any_eq_true]
  simp only [mem_spansAll_iff]

end Node

end Formwork
