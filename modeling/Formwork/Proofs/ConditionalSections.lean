import Formwork.Diagnostics
import Formwork.Page.Sections
import Formwork.Proofs.SectionPairs
import Formwork.Proofs.SectionSpans

/-!
# Which tokens conditional sections leave

The sections that depend on the whole page are settled by dropping some of them and
unwrapping the others, and all other tokens stay what they are. Which tokens stay is
therefore said by the places of the sections alone, however they are nested, crossed
or left open.
-/

namespace Formwork

namespace Token

/-- The token is a tag of the name, opening or closing. -/
def isNamed (token : Token) (name : String) : Bool := token.mark?.any (·.isNamed name)

/-- The token is an opening tag of the name. -/
def opens (token : Token) (name : String) : Bool := token.mark?.any (·.opens name)

/-- The text of the tokens that stay in their places, in order. -/
def sourcesThat (stays : Token × Nat → Bool) (tokens : List Token) : String :=
  sources ((tokens.zipIdx.filter stays).map Prod.fst)

/-- It is what is written if each token is written as it is or left out. -/
theorem join_staying {write : Token × Nat → String} {stays : Token × Nat → Bool}
    {tokens : List Token} (each : ∀ entry ∈ tokens.zipIdx,
      write entry = if stays entry then entry.1.source else "") :
    String.join (tokens.zipIdx.map write) = sourcesThat stays tokens := by
  rw [sourcesThat]
  generalize tokens.zipIdx = entries at each ⊢
  induction entries with
  | nil => rfl
  | cons entry rest inductionHypothesis =>
    obtain ⟨here, others⟩ := List.forall_mem_cons.mp each
    rw [List.map_cons, String.join_cons, here, inductionHypothesis others, List.filter_cons]
    split
    · rw [List.map_cons, sources_cons]
    · rw [String.empty_append]

end Token

/-! ## Passes over sections -/

namespace Node

mutual

/-- Error tags are filled in as every other token is written. -/
theorem fillErrors_eq (errors : String) : ∀ node : Node, fillErrors errors node =
    settle (fun _ => errors == "")
      (fun token => if token.opens "formErrors" then errors else token.source) node
  | .text content => rfl
  | .tag mark => rfl
  | .section opening children closing => by
    rw [fillErrors, settle, fillErrorsAll_eq errors children]
    simp only [beq_iff_eq]

/-- So it is for nodes. -/
theorem fillErrorsAll_eq (errors : String) : ∀ nodes : List Node, fillErrorsAll errors nodes =
    settleAll (fun _ => errors == "")
      (fun token => if token.opens "formErrors" then errors else token.source) nodes
  | [] => rfl
  | node :: rest => by
    rw [fillErrorsAll, settleAll, fillErrors_eq errors node, fillErrorsAll_eq errors rest]

end

mutual

/-- Tags of the kept name are left out as every other token is written. -/
theorem keepOnly_eq (kept : String) : ∀ node : Node, keepOnly kept node =
    settle (fun opening => !opening.isNamed kept)
      (fun token => if token.isNamed kept then "" else token.source) node
  | .text content => rfl
  | .tag mark => rfl
  | .section opening children closing => by
    rw [keepOnly, settle, keepOnlyAll_eq kept children]
    cases opening.isNamed kept <;> rfl

/-- So it is for nodes. -/
theorem keepOnlyAll_eq (kept : String) : ∀ nodes : List Node, keepOnlyAll kept nodes =
    settleAll (fun opening => !opening.isNamed kept)
      (fun token => if token.isNamed kept then "" else token.source) nodes
  | [] => rfl
  | node :: rest => by
    rw [keepOnlyAll, settleAll, keepOnly_eq kept node, keepOnlyAll_eq kept rest]

end

/-- Which sections are found does not depend on the order of the names. -/
theorem ofTokens_congr {names others : List String}
    (same : ∀ mark : Tag, names.any mark.isNamed = others.any mark.isNamed) :
    ofTokens names = ofTokens others := by
  have read : Forest.read names = Forest.read others := by
    funext forest token
    cases token with
    | text content => rfl
    | tag mark => rw [Forest.read, Forest.read, same]
  funext tokens
  rw [ofTokens, ofTokens, read]

end Node

/-! ## Tokens that stay -/

/-- The name of the sections that are shown to expandable forms, or to other forms. -/
def sectionName (expandable : Bool) : String :=
  if expandable then "ifExpandable" else "noShowExpandable"

/-- The sections for expandable forms and for other forms among tokens. -/
def expandableSpans (tokens : List Token) : List Span :=
  Span.all [sectionName true, sectionName false] tokens

/-- A token stays in its place if it is no tag of the sections that are shown, and if it is not in a
section that is not shown and no tag of one. -/
def staysIf (expandable : Bool) (tokens : List Token) (entry : Token × Nat) : Bool :=
  !entry.1.isNamed (sectionName expandable) && !(expandableSpans tokens).any fun span =>
    span.opening.isNamed (sectionName !expandable) && span.covers entry.2

/-- A token stays without errors if it is no error tag, and if it is not in a section for errors and
no tag of one. -/
def staysWithoutErrors (tokens : List Token) (entry : Token × Nat) : Bool :=
  !entry.1.opens "formErrors" && !(Span.all ["ifFormErrors"] tokens).any (·.covers entry.2)

/-- What is written for a token if there are errors: nothing for the tags of sections for errors,
and the errors for an error tag. -/
def writeWithErrors (errors : String) (tokens : List Token) (entry : Token × Nat) : String :=
  if (Span.all ["ifFormErrors"] tokens).any (·.delimits entry.2) then ""
  else if entry.1.opens "formErrors" then errors else entry.1.source

/-- No section is in another one. -/
def Unnested (spans : List Span) : Prop :=
  ∀ span ∈ spans, ∀ other ∈ spans, ∀ place,
    span.covers place = true → other.covers place = true → span = other

/-- The two names differ. -/
theorem sectionName_differs {mark : Tag} {expandable : Bool}
    (named : mark.isNamed (sectionName expandable) = true) :
    mark.isNamed (sectionName !expandable) = false := by
  have apart : Text.folded (sectionName expandable) ≠ Text.folded (sectionName !expandable) := by
    cases expandable <;> decide +kernel
  rw [Tag.isNamed, Text.sameName_eq, decide_eq_true_eq] at named
  rw [Tag.isNamed, Text.sameName_eq, decide_eq_false_iff_not, named]
  exact apart

/-- A section for expandable or for other forms has one of the two names. -/
theorem named_of_mem {tokens : List Token} {span : Span} (member : span ∈ expandableSpans tokens)
    (expandable : Bool) : span.opening.isNamed (sectionName !expandable) =
      !span.opening.isNamed (sectionName expandable) := by
  have named := (Span.all_delimited _ tokens span member).named
  cases same : span.opening.isNamed (sectionName expandable) with
  | true => exact sectionName_differs same
  | false =>
    cases expandable <;> simp_all

/-- The tags of a section are in it. -/
theorem Span.covers_of_delimits {names : List String} {tokens : List Token} {span : Span}
    (member : span ∈ Span.all names tokens) {place : Nat} (tag : span.delimits place = true) :
    span.covers place = true := by
  have there := (Node.mem_spansAll_iff names tokens span).mpr member
  have ordered := (Node.spansAll_between 0 _ span there).ordered
  rw [Span.delimits_iff] at tag
  rw [Span.covers_iff]
  omega

/-- The tags of a section have its name. -/
theorem Span.isNamed_of_delimits {names : List String} {tokens : List Token} {span : Span}
    (member : span ∈ Span.all names tokens) {entry : Token × Nat} (there : entry ∈ tokens.zipIdx)
    (tag : span.delimits entry.2 = true) {name : String}
    (named : span.opening.isNamed name = true) : entry.1.isNamed name = true := by
  obtain ⟨-, -, first, closing, last, -, same⟩ := Span.all_delimited names tokens span member
  obtain ⟨token, place⟩ := entry
  have here := List.mk_mem_zipIdx_iff_getElem?.mp there
  rcases Span.delimits_iff.mp tag with rfl | rfl
  · obtain rfl := Option.some.inj (here.symm.trans first)
    exact named
  · obtain rfl := Option.some.inj (here.symm.trans last)
    change closing.isNamed name = true
    rw [← Tag.isNamed_congr named, Tag.isNamed_comm]
    exact same

/-- Settling the sections for expandable and for other forms leaves the tokens that stay. -/
theorem Node.settleExpandable_eq (expandable : Bool) (template : String) :
    settleExpandable expandable template = Token.sourcesThat
      (staysIf expandable (Token.tokenize template)) (Token.tokenize template) := by
  have either : settleExpandable expandable template =
      keepOnlyAll (sectionName expandable)
        (ofTokens [sectionName true, sectionName false] (Token.tokenize template)) := by
    have swapped : ofTokens [sectionName true, sectionName false] =
        ofTokens [sectionName false, sectionName true] := by
      refine ofTokens_congr fun mark => ?_
      simp only [List.any_cons, List.any_nil, Bool.or_false]
      exact Bool.or_comm _ _
    cases expandable with
    | true => rfl
    | false =>
      rw [swapped]
      rfl
  rw [either, keepOnlyAll_eq, settleAll_ofTokens]
  refine Token.join_staying fun entry there => ?_
  rw [Span.settled, staysIf]
  cases kept : entry.1.isNamed (sectionName expandable) with
  | true =>
    rw [if_pos rfl, ite_self]
    rfl
  | false =>
    -- The tags of a section that is shown have its name, so the token is none of them.
    have same : ((expandableSpans (Token.tokenize template)).any fun span =>
        span.silences (fun opening => !opening.isNamed (sectionName expandable)) entry.2) =
        (expandableSpans (Token.tokenize template)).any fun span =>
          span.opening.isNamed (sectionName !expandable) && span.covers entry.2 := by
      rw [Bool.eq_iff_iff, List.any_eq_true, List.any_eq_true]
      refine exists_congr fun span => and_congr_right fun member => ?_
      rw [Span.silences, ← named_of_mem member, Bool.or_eq_true]
      refine or_iff_left_of_imp fun tag => ?_
      rw [Span.covers_of_delimits member tag, Bool.and_true, named_of_mem member, Bool.not_eq_true',
        ← Bool.not_eq_true]
      intro named
      rw [Span.isNamed_of_delimits member there tag named] at kept
      cases kept
    rw [expandableSpans] at same ⊢
    rw [same, if_neg Bool.false_ne_true, Bool.not_false, Bool.true_and]
    cases (Span.all [sectionName true, sectionName false] (Token.tokenize template)).any
      fun span => span.opening.isNamed (sectionName !expandable) && span.covers entry.2 <;> rfl

/-- An error list is empty exactly if there are no errors. -/
theorem Diagnostics.errorsHtml_eq_empty_iff (diagnostics : Diagnostics) (scope : String) :
    diagnostics.errorsHtml scope = "" ↔ diagnostics.errorsIn scope = [] := by
  rw [errorsHtml, listHtml]
  cases diagnostics.errorsIn scope with
  | nil => exact iff_of_true rfl rfl
  | cons message rest =>
    refine iff_of_false (fun empty => ?_) (List.cons_ne_nil message rest)
    have length := congrArg String.length empty
    simp at length

/-- Settling the sections for errors leaves, if there are none, the tokens that stay without
errors. -/
theorem Node.settleErrors_none (template : String) :
    settleErrors "" template = Token.sourcesThat
      (staysWithoutErrors (Token.tokenize template)) (Token.tokenize template) := by
  rw [settleErrors, parse, fillErrorsAll_eq, settleAll_ofTokens]
  refine Token.join_staying fun entry there => ?_
  have same : ((Span.all ["ifFormErrors"] (Token.tokenize template)).any fun span =>
      span.silences (fun _ => "" == "") entry.2) =
        (Span.all ["ifFormErrors"] (Token.tokenize template)).any (·.covers entry.2) := by
    rw [Bool.eq_iff_iff, List.any_eq_true, List.any_eq_true]
    refine exists_congr fun span => and_congr_right fun member => ?_
    rw [Span.silences, beq_self_eq_true, Bool.true_and, Bool.or_eq_true]
    exact or_iff_left_of_imp fun tag => Span.covers_of_delimits member tag
  rw [Span.settled, same, staysWithoutErrors]
  cases entry.1.opens "formErrors" <;>
    cases (Span.all ["ifFormErrors"] (Token.tokenize template)).any (·.covers entry.2) <;> rfl

/-- Settling them with errors unwraps the sections and fills in the error tags. -/
theorem Node.settleErrors_some {errors : String} (some : errors ≠ "") (template : String) :
    settleErrors errors template = String.join ((Token.tokenize template).zipIdx.map
      (writeWithErrors errors (Token.tokenize template))) := by
  rw [settleErrors, parse, fillErrorsAll_eq, settleAll_ofTokens]
  congr 1
  refine List.map_congr_left fun entry _ => ?_
  rw [Span.settled, writeWithErrors]
  simp only [Span.silences, beq_eq_false_iff_ne.mpr some, Bool.false_and, Bool.false_or]

/-- A token stays if it is no tag of the sections that are shown and all sections that it is in are
shown. -/
theorem staysIf_iff {expandable : Bool} {tokens : List Token} {entry : Token × Nat} :
    staysIf expandable tokens entry = true ↔
      entry.1.isNamed (sectionName expandable) = false ∧
        ∀ span ∈ expandableSpans tokens, span.covers entry.2 = true →
          span.opening.isNamed (sectionName expandable) = true := by
  rw [staysIf, Bool.and_eq_true, Bool.not_eq_true', Bool.not_eq_true', List.any_eq_false]
  refine and_congr_right fun _ => forall₂_congr fun span member => ?_
  rw [named_of_mem member, Bool.and_eq_true, Bool.not_eq_true', ← Bool.not_eq_true, and_comm,
    not_and, Decidable.not_not]

/-- Conditional sections keep exactly the right tokens, however they are nested, crossed or left open.
Of a form section the tokens stay, in order, that are no tags of the sections that are shown and that
no section of the other kind covers. Where errors are filled in, no token of a section for errors and
no error tag is left if there are none; otherwise the sections for errors lose their tags, every
error tag becomes the error list, and every other token stays.

So a token of a section for expandable forms stays only in these, and one of a section for other
forms only in others. If no section is in another one, it does stay there, unless it is a tag of the
section, and so does in both kinds of form what is in no section and no tag of one.

Proof: the sections of the nodes are those among the tokens in their places, and what is written
for a token depends on the sections that cover its place. -/
theorem Node.conditional_sections_settled (template : String) :
    let tokens := Token.tokenize template
    let sections := expandableSpans tokens
    (∀ expandable : Bool, settleExpandable expandable template =
        Token.sourcesThat (staysIf expandable tokens) tokens) ∧
      (∀ (diagnostics : Diagnostics) (scope : String),
        (diagnostics.errorsIn scope = [] → settleErrors (diagnostics.errorsHtml scope) template =
          Token.sourcesThat (staysWithoutErrors tokens) tokens) ∧
        (diagnostics.errorsIn scope ≠ [] → settleErrors (diagnostics.errorsHtml scope) template =
          String.join (tokens.zipIdx.map
            (writeWithErrors (diagnostics.errorsHtml scope) tokens)))) ∧
      ∀ (entry : Token × Nat) (shown : Bool),
        (∀ span ∈ sections, span.covers entry.2 = true →
          span.opening.isNamed (sectionName shown) = true →
            (∀ expandable, staysIf expandable tokens entry = true → expandable = shown) ∧
            (Unnested sections → entry.1.isNamed (sectionName shown) = false →
              staysIf shown tokens entry = true)) ∧
        ((∀ span ∈ sections, span.covers entry.2 = false) →
          entry.1.isNamed (sectionName shown) = false → staysIf shown tokens entry = true) := by
  intro tokens sections
  refine ⟨fun expandable => settleExpandable_eq expandable template,
    fun diagnostics scope => ⟨fun none => ?_, fun some => ?_⟩, fun entry shown => ⟨?_, ?_⟩⟩
  · rw [(diagnostics.errorsHtml_eq_empty_iff scope).mpr none]
    exact settleErrors_none template
  · exact settleErrors_some (mt (diagnostics.errorsHtml_eq_empty_iff scope).mp some) template
  · intro span member covered named
    refine ⟨fun expandable stays => ?_, fun unnested other => staysIf_iff.mpr ⟨other, ?_⟩⟩
    · have shownHere := (staysIf_iff.mp stays).2 span member covered
      by_cases same : shown = expandable
      · exact same.symm
      · rw [Bool.eq_not.mpr same, sectionName_differs shownHere] at named
        cases named
    · intro other' member' covered'
      rw [← unnested span member other' member' entry.2 covered covered']
      exact named
  · intro uncovered other
    refine staysIf_iff.mpr ⟨other, fun span member covered => ?_⟩
    rw [uncovered span member] at covered
    cases covered

/-- An expandable form keeps a closing tag of the other sections that stands alone. -/
theorem Node.conditional_section_kept :
    let template := "\x7bifExpandable\x7da\x7b/noShowExpandable\x7d\x7b/ifExpandable\x7d"
    let tokens := Token.tokenize template
    Unnested (expandableSpans tokens) ∧ staysIf true tokens (.text "a", 1) = true ∧
      settleExpandable true template = "a\x7b/noShowExpandable\x7d" := by
  intro template tokens
  obtain ⟨expandable, -, places⟩ := Node.conditional_sections_settled template
  have found : expandableSpans tokens = [⟨.opening "ifExpandable" "", 0, 3⟩] := by decide +kernel
  have unnested : Unnested (expandableSpans tokens) := by
    rw [found]
    intro span member other member' place covered covered'
    rw [List.mem_singleton.mp member, List.mem_singleton.mp member']
  have first : ⟨.opening "ifExpandable" "", 0, 3⟩ ∈ expandableSpans tokens := by
    rw [found]
    exact List.mem_cons_self
  refine ⟨unnested, ?_, ?_⟩
  · exact ((places (.text "a", 1) true).1 _ first rfl (by decide +kernel)).2 unnested rfl
  · rw [expandable]
    decide +kernel

end Formwork
