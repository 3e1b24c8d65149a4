import Formwork.Proofs.SpelledTexts

/-!
# Which tags delimit a section

A closing tag ends the innermost open section of its name, and what that leaves open
inside falls apart. So sections are paired innermost and maximally: no section has an
opening tag of its own name standing alone right inside it, and no two tags that stand
alone among the same siblings could have been paired.

The invariant of reading speaks about every open section, because each of them may
still fall apart: the closing tags that stand alone right inside it name neither it nor
a section around it.
-/

namespace Formwork

namespace Tag

/-- A tag of a name has every name that is the same. -/
theorem isNamed_congr {mark : Tag} {name : String} (named : mark.isNamed name = true)
    (other : Tag) : other.isNamed mark.name = other.isNamed name := by
  rw [isNamed, Text.sameName_eq, decide_eq_true_eq] at named
  rw [isNamed, isNamed, Text.sameName_eq, Text.sameName_eq, named]

/-- Two tags have the name of each other or neither has. -/
theorem isNamed_comm (mark other : Tag) :
    mark.isNamed other.name = other.isNamed mark.name := by
  rw [isNamed, isNamed, Text.sameName_eq, Text.sameName_eq, decide_eq_decide]
  exact eq_comm

/-- A tag opens under a name if it is an opening tag of that name. -/
theorem opens_iff {mark : Tag} {name : String} :
    mark.opens name = true ↔ mark.closing = false ∧ mark.isNamed name = true := by
  rw [opens, Bool.and_eq_true, Bool.not_eq_true']

/-- A tag closes under a name if it is a closing tag of that name. -/
theorem closes_iff {mark : Tag} {name : String} :
    mark.closes name = true ↔ mark.closing = true ∧ mark.isNamed name = true := by
  rw [closes, Bool.and_eq_true]

/-- A tag opens under every name that is the same. -/
theorem opens_congr {mark : Tag} {name : String} (named : mark.isNamed name = true)
    (other : Tag) : other.opens mark.name = other.opens name := by
  rw [opens, opens, isNamed_congr named]

/-- A tag closes under every name that is the same. -/
theorem closes_congr {mark : Tag} {name : String} (named : mark.isNamed name = true)
    (other : Tag) : other.closes mark.name = other.closes name := by
  rw [closes, closes, isNamed_congr named]

end Tag

namespace Node

/-! ## Siblings -/

/-- The second list are the nodes themselves or all that stands right inside one section among
them, at any depth. -/
inductive Siblings : List Node → List Node → Prop where
  /-- The nodes themselves. -/
  | roots (nodes : List Node) : Siblings nodes nodes
  /-- Siblings inside a section. -/
  | inside {nodes children siblings : List Node} {opening closing : Tag}
      (member : .section opening children closing ∈ nodes) (within : Siblings children siblings) :
      Siblings nodes siblings

/-- Among siblings sections are delimited by tags of the names, and neither inside a section nor
among the siblings could more tags be paired. -/
structure PairedIn (names : List String) (siblings : List Node) : Prop where
  /-- A section stands between an opening and a closing tag of one of the names. -/
  delimited : ∀ opening children closing, .section opening children closing ∈ siblings →
    ∃ name ∈ names, opening.opens name = true ∧ closing.closes name = true
  /-- No opening tag that stands alone right inside a section has the name of the section. -/
  innermost : ∀ opening children closing, .section opening children closing ∈ siblings →
    ∀ mark, .tag mark ∈ children → mark.opens opening.name = false
  /-- Behind an opening tag of one of the names that stands alone, no closing tag of the same name
  stands alone. -/
  maximal : ∀ front behind mark, siblings = front ++ .tag mark :: behind →
    ∀ name ∈ names, mark.opens name = true →
      ∀ stray, .tag stray ∈ behind → stray.closes name = false

/-- The sections among the nodes are paired, at any depth. -/
def Paired (names : List String) (nodes : List Node) : Prop :=
  ∀ siblings, Siblings nodes siblings → PairedIn names siblings

/-- No opening tag of one of the names stands alone among the nodes. -/
def Quiet (names : List String) (nodes : List Node) : Prop :=
  ∀ mark, .tag mark ∈ nodes → ∀ name ∈ names, mark.opens name = false

/-- No closing tag that stands alone among the nodes has the name of one of the opening tags. -/
def Foreign (openings : List Tag) (nodes : List Node) : Prop :=
  ∀ stray, .tag stray ∈ nodes → ∀ opening ∈ openings, stray.closes opening.name = false

variable {names : List String}

/-- Nodes are paired if they are among themselves and so is what each section holds. -/
theorem Paired.of_inside {nodes : List Node} (here : PairedIn names nodes)
    (inside : ∀ opening children closing, .section opening children closing ∈ nodes →
      Paired names children) : Paired names nodes := by
  rintro siblings (_ | ⟨member, within⟩)
  · exact here
  · exact inside _ _ _ member siblings within

/-- What a section holds is paired if the section is. -/
theorem Paired.inside {nodes children : List Node} {opening closing : Tag}
    (paired : Paired names nodes) (member : .section opening children closing ∈ nodes) :
    Paired names children :=
  fun siblings within => paired siblings (.inside member within)

/-- Nodes without sections that hold one tag at most are paired. -/
theorem paired_of_alone {nodes : List Node} (short : nodes.length ≤ 1)
    (alone : ∀ opening children closing, .section opening children closing ∉ nodes) :
    Paired names nodes := by
  refine .of_inside ⟨?_, ?_, ?_⟩ fun _ _ _ member => absurd member (alone _ _ _)
  · exact fun _ _ _ member => absurd member (alone _ _ _)
  · exact fun _ _ _ member => absurd member (alone _ _ _)
  · rintro front behind mark rfl - - - stray member
    rw [List.length_append, List.length_cons] at short
    have nothing : behind = [] := List.eq_nil_of_length_eq_zero (by omega)
    rw [nothing] at member
    cases member

/-- A text is paired. -/
theorem paired_text (content : String) : Paired names [.text content] :=
  paired_of_alone Nat.le.refl fun _ _ _ member => by cases List.mem_singleton.mp member

/-- So is a tag that stands alone. -/
theorem paired_tag (mark : Tag) : Paired names [.tag mark] :=
  paired_of_alone Nat.le.refl fun _ _ _ member => by cases List.mem_singleton.mp member

/-- Paired nodes may follow each other if no opening tag that stands alone among the first comes
before a closing tag that stands alone among the others and has its name. -/
theorem Paired.append {left right : List Node} (first : Paired names left)
    (second : Paired names right)
    (apart : ∀ mark, .tag mark ∈ left → ∀ name ∈ names, mark.opens name = true →
      ∀ stray, .tag stray ∈ right → stray.closes name = false) :
    Paired names (left ++ right) := by
  have here := first left (.roots left)
  have there := second right (.roots right)
  refine .of_inside ⟨?_, ?_, ?_⟩ ?_
  · intro opening children closing member
    rcases List.mem_append.mp member with inLeft | inRight
    · exact here.delimited _ _ _ inLeft
    · exact there.delimited _ _ _ inRight
  · intro opening children closing member
    rcases List.mem_append.mp member with inLeft | inRight
    · exact here.innermost _ _ _ inLeft
    · exact there.innermost _ _ _ inRight
  · intro front behind mark split name listed opens stray member
    rcases List.append_eq_append_iff.mp split with
      ⟨between, rfl, inRight⟩ | ⟨between, inLeft, rest⟩
    · exact there.maximal between behind mark inRight name listed opens stray member
    · cases between with
      | nil =>
        rw [List.nil_append] at rest
        exact there.maximal [] behind mark rest.symm name listed opens stray member
      | cons node between =>
        obtain ⟨rfl, rfl⟩ := List.cons.inj rest
        rcases List.mem_append.mp member with inside | beyond
        · exact here.maximal front between mark inLeft name listed opens stray inside
        · refine apart mark ?_ name listed opens stray beyond
          rw [inLeft]
          exact List.mem_append_right _ List.mem_cons_self
  · intro opening children closing member
    rcases List.mem_append.mp member with inLeft | inRight
    · exact first.inside inLeft
    · exact second.inside inRight

/-- Nodes may follow others among which no opening tag stands alone. -/
theorem Paired.append_quiet {left right : List Node} (first : Paired names left)
    (second : Paired names right) (quiet : Quiet names left) : Paired names (left ++ right) := by
  refine first.append second fun mark member name listed opens => ?_
  rw [quiet mark member name listed] at opens
  cases opens

/-- If no opening tag of the names stands alone among nodes, nor among others, none stands alone
among both. -/
theorem Quiet.append {left right : List Node} (first : Quiet names left)
    (second : Quiet names right) : Quiet names (left ++ right) := by
  intro mark member
  rcases List.mem_append.mp member with inLeft | inRight
  · exact first mark inLeft
  · exact second mark inRight

/-- If closing tags among nodes have other names, and those among others too, all of them have. -/
theorem Foreign.append {openings : List Tag} {left right : List Node}
    (first : Foreign openings left) (second : Foreign openings right) :
    Foreign openings (left ++ right) := by
  intro stray member
  rcases List.mem_append.mp member with inLeft | inRight
  · exact first stray inLeft
  · exact second stray inRight

/-- A section is paired between its tags, if what it holds is and no opening tag that stands alone
in it has its name. -/
theorem Paired.section {children : List Node} {opening closing : Tag}
    (delimited : ∃ name ∈ names, opening.opens name = true ∧ closing.closes name = true)
    (innermost : ∀ mark, .tag mark ∈ children → mark.opens opening.name = false)
    (inside : Paired names children) : Paired names [.section opening children closing] := by
  have only {opening' closing' : Tag} {children' : List Node}
      (member : .section opening' children' closing' ∈ [Node.section opening children closing]) :
      opening' = opening ∧ children' = children ∧ closing' = closing :=
    Node.section.inj (List.mem_singleton.mp member)
  refine .of_inside ⟨?_, ?_, ?_⟩ ?_
  · intro opening' children' closing' member
    obtain ⟨rfl, -, rfl⟩ := only member
    exact delimited
  · intro opening' children' closing' member
    obtain ⟨rfl, rfl, -⟩ := only member
    exact innermost
  · intro front behind mark split
    have there : Node.tag mark ∈ [Node.section opening children closing] := by
      rw [split]
      exact List.mem_append_right _ List.mem_cons_self
    cases List.mem_singleton.mp there
  · intro opening' children' closing' member
    obtain ⟨-, rfl, -⟩ := only member
    exact inside

/-! ## Open sections -/

/-- Every open section has a tag of one of the names, and what was read in it is paired. No opening
tag of the names stands alone in it, and the closing tags that do have neither its name nor that of
a section around it. -/
inductive Frame.Waiting (names : List String) : List Frame → Prop where
  /-- No section is open. -/
  | nil : Waiting names []
  /-- A section inside the others. -/
  | cons {frame : Frame} {outer : List Frame}
      (requested : ∃ name ∈ names, frame.opening.opens name = true)
      (paired : Paired names frame.children) (quiet : Quiet names frame.children)
      (foreign : Foreign ((frame :: outer).map Frame.opening) frame.children)
      (waiting : Waiting names outer) : Waiting names (frame :: outer)

/-- What falls apart inside the open sections is paired, and its closing tags name none of them. -/
structure Handed (names : List String) (frames : List Frame) (nodes : List Node) : Prop where
  /-- The nodes are paired. -/
  paired : Paired names nodes
  /-- The closing tags that stand alone among them have other names than the open sections. -/
  foreign : Foreign (frames.map Frame.opening) nodes

/-- Nothing is paired. -/
theorem handed_nil (names : List String) (frames : List Frame) : Handed names frames [] :=
  ⟨paired_of_alone (Nat.zero_le 1) fun _ _ _ => List.not_mem_nil,
    fun _ member => absurd member List.not_mem_nil⟩

/-- Every open section has a tag of one of the names. -/
theorem Frame.Waiting.requested {frames : List Frame} (waiting : Waiting names frames) :
    ∀ frame ∈ frames, ∃ name ∈ names, frame.opening.opens name = true := by
  induction waiting with
  | nil => exact fun _ member => absurd member List.not_mem_nil
  | cons requested _ _ _ _ inductionHypothesis =>
    intro frame member
    rcases List.mem_cons.mp member with rfl | outer
    · exact requested
    · exact inductionHypothesis frame outer

namespace Forest

/-- What was read is paired, and no opening tag of the names stands alone outside the open
sections. -/
structure Sound (names : List String) (forest : Forest) : Prop where
  /-- The open sections are paired as far as they were read. -/
  waiting : Frame.Waiting names forest.pending
  /-- So is what is outside them. -/
  paired : Paired names forest.roots
  /-- No opening tag of the names stands alone there. -/
  quiet : Quiet names forest.roots

/-- Paired nodes among which no opening tag of the names stands alone may be attached if their
closing tags name no open section. -/
theorem Sound.attach {forest : Forest} {nodes : List Node} (sound : forest.Sound names)
    (handed : Handed names forest.pending nodes) (quiet : Quiet names nodes) :
    (forest.attach nodes).Sound names := by
  obtain ⟨pending, roots⟩ := forest
  obtain ⟨waiting, rootsPaired, rootsQuiet⟩ := sound
  cases waiting with
  | nil =>
    exact ⟨.nil, rootsPaired.append_quiet handed.paired rootsQuiet, rootsQuiet.append quiet⟩
  | cons requested paired silent foreign waiting =>
    exact ⟨.cons requested (paired.append_quiet handed.paired silent) (silent.append quiet)
      (foreign.append handed.foreign) waiting, rootsPaired, rootsQuiet⟩

/-- What was read in an open section is paired with what falls apart inside it. -/
theorem children_handed {frame : Frame} {outer : List Frame} {inner : List Node}
    (waiting : Frame.Waiting names (frame :: outer)) (handed : Handed names (frame :: outer) inner) :
    Handed names (frame :: outer) (frame.children ++ inner) := by
  cases waiting with
  | cons requested paired quiet foreign waiting =>
    exact ⟨paired.append_quiet handed.paired quiet, foreign.append handed.foreign⟩

/-- So the section may fall apart itself. -/
theorem loosen_handed {frame : Frame} {outer : List Frame} {inner : List Node}
    (waiting : Frame.Waiting names (frame :: outer)) (handed : Handed names (frame :: outer) inner) :
    Handed names outer (loosen frame inner) := by
  obtain ⟨paired, foreign⟩ := children_handed waiting handed
  cases waiting with
  | cons requested _ _ _ _ =>
    obtain ⟨_, -, opens⟩ := requested
    obtain ⟨opened, -⟩ := Tag.opens_iff.mp opens
    refine ⟨(paired_tag frame.opening).append paired ?_, ?_⟩
    · intro mark member name listed opens stray there
      obtain rfl := Node.tag.inj (List.mem_singleton.mp member)
      rw [← Tag.closes_congr (Tag.opens_iff.mp opens).2]
      exact foreign stray there frame.opening List.mem_cons_self
    · intro stray member opening there
      rcases List.mem_cons.mp member with same | inside
      · obtain rfl := Node.tag.inj same
        rw [Tag.closes, opened, Bool.false_and]
      · exact foreign stray inside opening (List.mem_cons_of_mem _ there)

/-- A closing tag pairs with the innermost open section of its name. What falls apart inside it has
no opening tag of the name, as the section would not be the innermost one. -/
theorem close_sound {closing : Tag} {name : String} (listed : name ∈ names)
    (closes : closing.closes name = true) {roots inner : List Node} {frames : List Frame}
    (waiting : Frame.Waiting names frames) (rootsPaired : Paired names roots)
    (rootsQuiet : Quiet names roots) (handed : Handed names frames inner)
    (others : ∀ mark, .tag mark ∈ inner → mark.opens name = false)
    (named : frames.any (fun frame => frame.opening.isNamed closing.name) = true) :
    (close closing roots inner frames).Sound names := by
  obtain ⟨-, closingNamed⟩ := Tag.closes_iff.mp closes
  induction frames generalizing inner with
  | nil => cases named
  | cons frame outer inductionHypothesis =>
    have inside := children_handed waiting handed
    have loosened := loosen_handed waiting handed
    obtain - | ⟨⟨_, -, opens⟩, -, quiet, -, waiting⟩ := waiting
    have silent : ∀ mark, .tag mark ∈ frame.children ++ inner → mark.opens name = false := by
      intro mark member
      rcases List.mem_append.mp member with own | fallen
      · exact quiet mark own name listed
      · exact others mark fallen
    obtain ⟨opening, -⟩ := Tag.opens_iff.mp opens
    unfold close
    rw [List.any_cons, Tag.isNamed_congr closingNamed] at named
    rw [Tag.isNamed_congr closingNamed]
    by_cases same : frame.opening.isNamed name = true
    · rw [if_pos same]
      have alone (mark : Tag) :
          .tag mark ∉ [Node.section frame.opening (frame.children ++ inner) closing] :=
        fun member => by cases List.mem_singleton.mp member
      refine Sound.attach ⟨waiting, rootsPaired, rootsQuiet⟩ ⟨.section ?_ ?_ inside.paired, ?_⟩ ?_
      · exact ⟨name, listed, Tag.opens_iff.mpr ⟨opening, same⟩, closes⟩
      · intro mark member
        rw [Tag.opens_congr same]
        exact silent mark member
      · exact fun stray member => absurd member (alone stray)
      · exact fun mark member => absurd member (alone mark)
    · rw [if_neg same]
      rw [Bool.not_eq_true] at same
      rw [same, Bool.false_or] at named
      refine inductionHypothesis waiting loosened (fun mark member => ?_) named
      rcases List.mem_cons.mp member with tag | fallen
      · obtain rfl := Node.tag.inj tag
        rw [Tag.opens, same, Bool.and_false]
      · exact silent mark fallen

/-- A tag is attached if it is no opening tag of the names and closes no open section. -/
theorem Sound.attach_tag {forest : Forest} (sound : forest.Sound names) {mark : Tag}
    (quiet : ∀ name ∈ names, mark.opens name = false)
    (foreign : ∀ frame ∈ forest.pending, mark.closes frame.opening.name = false) :
    (forest.attach [.tag mark]).Sound names := by
  refine sound.attach ⟨paired_tag mark, fun stray member opening there => ?_⟩ fun other member => ?_
  · obtain rfl := Node.tag.inj (List.mem_singleton.mp member)
    obtain ⟨frame, pending, rfl⟩ := List.mem_map.mp there
    exact foreign frame pending
  · obtain rfl := Node.tag.inj (List.mem_singleton.mp member)
    exact quiet

/-- Reading a token keeps what was read paired. -/
theorem Sound.read {forest : Forest} (sound : forest.Sound names) (token : Token) :
    (forest.read names token).Sound names := by
  cases token with
  | text content =>
    have noTag (mark : Tag) : .tag mark ∉ [Node.text content] :=
      fun member => by cases List.mem_singleton.mp member
    exact sound.attach ⟨paired_text content, fun stray member => absurd member (noTag stray)⟩
      fun mark member => absurd member (noTag mark)
  | tag mark =>
    rcases read_tag_cases names forest mark with ⟨unnamed, reads⟩ | ⟨requested, opening, reads⟩ |
      ⟨requested, closing, pairs, reads⟩ | ⟨requested, closing, alone, reads⟩
    · rw [reads]
      have other : ∀ name ∈ names, mark.isNamed name = false := fun name listed =>
        eq_false_of_ne_true (List.any_eq_false.mp unnamed name listed)
      refine sound.attach_tag (fun name listed => ?_) fun frame pending => ?_
      · rw [Tag.opens, other name listed, Bool.and_false]
      · obtain ⟨name, listed, opens⟩ := sound.waiting.requested frame pending
        rw [Tag.closes_congr (Tag.opens_iff.mp opens).2, Tag.closes, other name listed,
          Bool.and_false]
    · rw [reads]
      obtain ⟨name, listed, named⟩ := List.any_eq_true.mp requested
      have empty := handed_nil names (⟨mark, []⟩ :: forest.pending)
      exact ⟨.cons ⟨name, listed, Tag.opens_iff.mpr ⟨opening, named⟩⟩ empty.paired
        (fun _ member => absurd member List.not_mem_nil) empty.foreign sound.waiting,
        sound.paired, sound.quiet⟩
    · rw [reads]
      obtain ⟨name, listed, named⟩ := List.any_eq_true.mp requested
      exact close_sound listed (Tag.closes_iff.mpr ⟨closing, named⟩) sound.waiting sound.paired
        sound.quiet (handed_nil _ _) (fun _ member => absurd member List.not_mem_nil) pairs
    · rw [reads]
      rw [List.any_eq_false] at alone
      refine sound.attach_tag (fun name _ => ?_) fun frame pending => ?_
      · rw [Tag.opens, closing, Bool.not_true, Bool.false_and]
      · rw [Tag.closes, Tag.isNamed_comm, eq_false_of_ne_true (alone frame pending),
          Bool.and_false]

/-- So does reading tokens one after another. -/
theorem Sound.reads (tokens : List Token) {forest : Forest} (sound : forest.Sound names) :
    (tokens.foldl (Forest.read names) forest).Sound names := by
  induction tokens generalizing forest with
  | nil => exact sound
  | cons token rest inductionHypothesis => exact inductionHypothesis (sound.read token)

/-- What is still open at the end falls apart, and all of it is paired. -/
theorem Sound.finish {forest : Forest} (sound : forest.Sound names) :
    Paired names forest.finish := by
  have fallen {frames : List Frame} {inner : List Node} (waiting : Frame.Waiting names frames)
      (handed : Handed names frames inner) :
      Handed names [] (frames.foldl (fun inner frame => loosen frame inner) inner) := by
    induction frames generalizing inner with
    | nil => exact handed
    | cons frame outer inductionHypothesis =>
      have loosened := loosen_handed waiting handed
      cases waiting with
      | cons _ _ _ _ waiting => exact inductionHypothesis waiting loosened
  exact sound.paired.append_quiet (fallen sound.waiting (handed_nil names _)).paired sound.quiet

end Forest

/-- Sections of tokens are paired. -/
theorem ofTokens_paired (names : List String) (tokens : List Token) :
    Paired names (ofTokens names tokens) := by
  have started : Forest.Sound names {} :=
    ⟨.nil, (handed_nil names []).paired, fun _ member => absurd member List.not_mem_nil⟩
  exact (started.reads tokens).finish

/-- Pairing is innermost and maximal, whatever tokens are read and whatever names are asked for. The
tokens stay as they are, in order. Wherever a section is found, it stands between an opening and a
closing tag of one and the same of the names, in any case of letters, and no opening tag of its name
stands alone right inside it. And among the siblings at any place, no opening tag of one of the
names stands alone before a closing tag that stands alone and has this name.

Proof: one token after another, for the sections that are still open as well as for what is outside
them; when a section falls apart, its tag and what was read in it are handed outwards. -/
theorem sections_paired_innermost (names : List String) (tokens : List Token) :
    tokensAll (ofTokens names tokens) = tokens ∧
      ∀ siblings, Siblings (ofTokens names tokens) siblings → PairedIn names siblings :=
  ⟨tokensAll_ofTokens names tokens, ofTokens_paired names tokens⟩

/-- The first closing tag ends the outer section, and the inner one, which is never closed, falls
apart in it; the second closing tag stands alone. -/
theorem crossing_sections_paired :
    let outer : Tag := .opening "A" ""
    let closing : Tag := ⟨"a", true, "", "\x7b/a\x7d"⟩
    let inner : Tag := .opening "b" ""
    Siblings (ofTokens ["a", "b"] [.tag outer, .tag inner, .tag closing, .tag closing])
        [.section outer [.tag inner] closing, .tag closing] ∧
      PairedIn ["a", "b"] [.section outer [.tag inner] closing, .tag closing] := by
  intro outer closing inner
  have read : ofTokens ["a", "b"] [.tag outer, .tag inner, .tag closing, .tag closing] =
      [.section outer [.tag inner] closing, .tag closing] := by
    have listed : ["a", "b"].any outer.isNamed = true ∧ ["a", "b"].any inner.isNamed = true ∧
        ["a", "b"].any closing.isNamed = true := by decide +kernel
    have named : outer.isNamed closing.name = true ∧ inner.isNamed closing.name = false := by
      decide +kernel
    have opens : outer.closing = false ∧ inner.closing = false ∧ closing.closing = true := by
      decide
    simp [ofTokens, Forest.read, listed, named, opens, Forest.close, Forest.attach,
      Forest.loosen, Forest.finish]
  have here : Siblings (ofTokens ["a", "b"] [.tag outer, .tag inner, .tag closing, .tag closing])
      [.section outer [.tag inner] closing, .tag closing] := by
    rw [read]
    exact .roots _
  exact ⟨here, (sections_paired_innermost _ _).2 _ here⟩

end Node

end Formwork
