import Formwork.Page.Sections
import Formwork.Proofs.TagSequence

/-!
# Sections in step

Sections are delimited by tags, so texts with the same tags have the same
sections, and these differ at most in the plain texts inside them. Passes that
keep or drop whole sections therefore lead from texts that are alike to texts
that are alike.
-/

namespace Formwork

namespace Node

/-- Nodes that are the same but for plain texts. -/
inductive InStep : List Node → List Node → Prop where
  /-- Nothing is left. -/
  | nil : InStep [] []
  /-- A plain text on the left. -/
  | first {content : String} {left right : List Node} (plain : Text.Plain content)
      (rest : InStep left right) : InStep (.text content :: left) right
  /-- A plain text on the right. -/
  | second {content : String} {left right : List Node} (plain : Text.Plain content)
      (rest : InStep left right) : InStep left (.text content :: right)
  /-- The same tag. -/
  | tag {mark : Tag} {left right : List Node} (proper : mark.Proper) (rest : InStep left right) :
      InStep (.tag mark :: left) (.tag mark :: right)
  /-- A section with the same delimiters. -/
  | section {opening closing : Tag} {inner inner' left right : List Node} (opens : opening.Proper)
      (closes : closing.Proper) (children : InStep inner inner') (rest : InStep left right) :
      InStep (.section opening inner closing :: left) (.section opening inner' closing :: right)

/-- Nodes in step may be put together. -/
theorem InStep.append {left right left' right' : List Node} (front : InStep left right)
    (back : InStep left' right') : InStep (left ++ left') (right ++ right') := by
  induction front with
  | nil => exact back
  | first plain rest inductionHypothesis => exact .first plain inductionHypothesis
  | second plain rest inductionHypothesis => exact .second plain inductionHypothesis
  | tag proper rest inductionHypothesis => exact .tag proper inductionHypothesis
  | «section» opens closes children rest ignored inductionHypothesis =>
    exact .section opens closes children inductionHypothesis

/-- The same tag alone is in step. -/
theorem InStep.single {mark : Tag} (proper : mark.Proper) : InStep [.tag mark] [.tag mark] :=
  .tag proper .nil

/-- A node that is a plain text. -/
def Gap (node : Node) : Prop := ∃ content, node = .text content ∧ Text.Plain content

/-- The same tag, or a section with the same delimiters. -/
inductive Same : Node → Node → Prop where
  /-- The same tag. -/
  | tag {mark : Tag} (proper : mark.Proper) : Same (.tag mark) (.tag mark)
  /-- A section with the same delimiters. -/
  | section {opening closing : Tag} {inner inner' : List Node} (opens : opening.Proper)
      (closes : closing.Proper) (children : InStep inner inner') :
      Same (.section opening inner closing) (.section opening inner' closing)

/-- Nodes in step are lists in step. -/
theorem InStep.aligned {left right : List Node} (step : InStep left right) :
    Aligned Gap Same left right := by
  induction step with
  | nil => exact .nil
  | first plain rest inductionHypothesis => exact .first ⟨_, rfl, plain⟩ inductionHypothesis
  | second plain rest inductionHypothesis => exact .second ⟨_, rfl, plain⟩ inductionHypothesis
  | tag proper rest inductionHypothesis => exact .both (.tag proper) inductionHypothesis
  | «section» opens closes children rest ignored inductionHypothesis =>
    exact .both (.section opens closes children) inductionHypothesis

/-! ## Reading sections -/

/-- Open sections that are the same but for plain texts. -/
inductive Frame.InStep : List Frame → List Frame → Prop where
  /-- No section is open. -/
  | nil : InStep [] []
  /-- A section with the same opening tag. -/
  | cons {opening : Tag} {inner inner' : List Node} {left right : List Frame}
      (opens : opening.Proper) (children : Node.InStep inner inner') (rest : InStep left right) :
      InStep (⟨opening, inner⟩ :: left) (⟨opening, inner'⟩ :: right)

/-- What has been read is the same but for plain texts. -/
structure Forest.InStep (left right : Forest) : Prop where
  /-- The open sections are in step. -/
  pending : Frame.InStep left.pending right.pending
  /-- The nodes outside are in step. -/
  roots : Node.InStep left.roots right.roots

namespace Forest

/-- Nodes in step may be added. -/
theorem InStep.attach {left right : Forest} (step : left.InStep right) {nodes nodes' : List Node}
    (added : Node.InStep nodes nodes') : (left.attach nodes).InStep (right.attach nodes') := by
  obtain ⟨pending, roots⟩ := left
  obtain ⟨pending', roots'⟩ := right
  obtain ⟨open', outside⟩ := step
  cases open' with
  | nil => exact ⟨.nil, outside.append added⟩
  | cons opens children rest => exact ⟨.cons opens (children.append added) rest, outside⟩

/-- Adding no nodes changes nothing. -/
theorem attach_nil (forest : Forest) : forest.attach [] = forest := by
  obtain ⟨pending, roots⟩ := forest
  cases pending with
  | nil => simp [attach]
  | cons frame rest => simp [attach]

/-- The same tag ends the same section. -/
theorem InStep.close {closing : Tag} (closes : closing.Proper) {roots roots' : List Node}
    (outside : Node.InStep roots roots') {frames frames' : List Frame}
    (pending : Frame.InStep frames frames') {inner inner' : List Node}
    (inside : Node.InStep inner inner') :
    (close closing roots inner frames).InStep (close closing roots' inner' frames') := by
  induction pending generalizing inner inner' with
  | nil => exact ⟨.nil, (outside.append inside).append (.single closes)⟩
  | cons opens children rest inductionHypothesis =>
    unfold Forest.close
    dsimp only
    split
    · exact InStep.attach ⟨rest, outside⟩ (.section opens closes (children.append inside) .nil)
    · exact inductionHypothesis (.tag opens (children.append inside))

/-- The same section is open on both sides. -/
theorem any_inStep {frames frames' : List Frame} (pending : Frame.InStep frames frames')
    (test : Tag → Bool) :
    (frames.any fun frame => test frame.opening) = frames'.any fun frame => test frame.opening := by
  induction pending with
  | nil => rfl
  | cons opens children rest inductionHypothesis =>
    simp only [List.any_cons, inductionHypothesis]

/-- The same tag is read in step. -/
theorem InStep.read_tag {left right : Forest} (step : left.InStep right) (names : List String)
    {mark : Tag} (proper : mark.Proper) :
    (left.read names (.tag mark)).InStep (right.read names (.tag mark)) := by
  unfold Forest.read
  dsimp only
  rw [any_inStep step.pending fun opening => opening.isNamed mark.name]
  split
  · exact step.attach (.single proper)
  · split
    · exact ⟨.cons proper .nil step.pending, step.roots⟩
    · split
      · exact InStep.close proper step.roots step.pending .nil
      · exact step.attach (.single proper)

/-- Tokens in step are read in step. -/
theorem InStep.read {left right : List Token}
    (aligned : Aligned Token.Gap Token.Same left right) (names : List String) {forest other : Forest}
    (step : forest.InStep other) :
    (left.foldl (Forest.read names) forest).InStep (right.foldl (Forest.read names) other) := by
  induction aligned generalizing forest other with
  | nil => exact step
  | first fills rest inductionHypothesis =>
    obtain ⟨content, rfl, plain⟩ := fills
    have added := step.attach (.first plain .nil)
    rw [attach_nil] at added
    exact inductionHypothesis added
  | second fills rest inductionHypothesis =>
    obtain ⟨content, rfl, plain⟩ := fills
    have added := step.attach (.second plain .nil)
    rw [attach_nil] at added
    exact inductionHypothesis added
  | both agree rest inductionHypothesis =>
    obtain ⟨mark, proper, rfl, rfl⟩ := agree
    exact inductionHypothesis (step.read_tag names proper)

/-- What is left open falls apart in step. -/
theorem InStep.finish {left right : Forest} (step : left.InStep right) :
    Node.InStep left.finish right.finish := by
  have loosened {frames frames' : List Frame} (pending : Frame.InStep frames frames')
      {inner inner' : List Node} (inside : Node.InStep inner inner') :
      Node.InStep (frames.foldl (fun inner frame => loosen frame inner) inner)
        (frames'.foldl (fun inner frame => loosen frame inner) inner') := by
    induction pending generalizing inner inner' with
    | nil => exact inside
    | cons opens children rest inductionHypothesis =>
      exact inductionHypothesis (.tag opens (children.append inside))
  exact step.roots.append (loosened step.pending .nil)

end Forest

/-- Texts that are alike have sections in step. -/
theorem parse_inStep {left right : String} (alike : Text.Alike left right) (names : List String) :
    InStep (parse names left) (parse names right) :=
  (Forest.InStep.read alike.tokens names ⟨.nil, .nil⟩).finish

/-! ## Passes over sections -/

/-- A plain text in front makes no difference on the left. -/
theorem alike_first {content left right : String} (plain : Text.Plain content)
    (alike : Text.Alike left right) : Text.Alike (content ++ left) right := by
  have front : Text.Alike content "" := plain.alike (by decide)
  have whole := front.append alike
  rwa [String.empty_append] at whole

/-- A plain text in front makes no difference on the right. -/
theorem alike_second {content left right : String} (plain : Text.Plain content)
    (alike : Text.Alike left right) : Text.Alike left (content ++ right) := by
  have front : Text.Alike "" content := Text.Plain.alike (by decide) plain
  have whole := front.append alike
  rwa [String.empty_append] at whole

/-- The empty text is like itself. -/
theorem alike_empty : Text.Alike "" "" := Text.Plain.alike (by decide) (by decide)

/-- Nodes in step stand for texts that are alike. -/
theorem InStep.sources {left right : List Node} (step : InStep left right) :
    Text.Alike (Node.sources left) (Node.sources right) := by
  induction step with
  | nil => exact alike_empty
  | first plain rest inductionHypothesis => exact alike_first plain inductionHypothesis
  | second plain rest inductionHypothesis => exact alike_second plain inductionHypothesis
  | tag proper rest inductionHypothesis => exact proper.tidy.alike.append inductionHypothesis
  | «section» opens closes children rest inside inductionHypothesis =>
    exact ((opens.tidy.alike.append inside).append closes.tidy.alike).append inductionHypothesis

/-- Filling in errors leads to texts that are alike. -/
theorem InStep.fillErrors {left right : List Node} (step : InStep left right) {errors : String}
    (shown : Text.Plain errors) :
    Text.Alike (fillErrorsAll errors left) (fillErrorsAll errors right) := by
  induction step with
  | nil => exact alike_empty
  | first plain rest inductionHypothesis => exact alike_first plain inductionHypothesis
  | second plain rest inductionHypothesis => exact alike_second plain inductionHypothesis
  | @tag mark left right proper rest inductionHypothesis =>
    have here : Text.Alike (Node.fillErrors errors (.tag mark)) (Node.fillErrors errors (.tag mark)) := by
      unfold Node.fillErrors
      split
      · exact shown.alike shown
      · exact proper.tidy.alike
    exact here.append inductionHypothesis
  | @«section» opening closing inner inner' left right opens closes children rest inside
      inductionHypothesis =>
    have here : Text.Alike (Node.fillErrors errors (.section opening inner closing))
        (Node.fillErrors errors (.section opening inner' closing)) := by
      unfold Node.fillErrors
      split
      · exact alike_empty
      · exact inside
    exact here.append inductionHypothesis

/-- Keeping the sections of one name leads to texts that are alike. -/
theorem InStep.keepOnly {left right : List Node} (step : InStep left right) (kept : String) :
    Text.Alike (keepOnlyAll kept left) (keepOnlyAll kept right) := by
  induction step with
  | nil => exact alike_empty
  | first plain rest inductionHypothesis => exact alike_first plain inductionHypothesis
  | second plain rest inductionHypothesis => exact alike_second plain inductionHypothesis
  | @tag mark left right proper rest inductionHypothesis =>
    have here : Text.Alike (Node.keepOnly kept (.tag mark)) (Node.keepOnly kept (.tag mark)) := by
      unfold Node.keepOnly
      split
      · exact alike_empty
      · exact proper.tidy.alike
    exact here.append inductionHypothesis
  | @«section» opening closing inner inner' left right opens closes children rest inside
      inductionHypothesis =>
    have here : Text.Alike (Node.keepOnly kept (.section opening inner closing))
        (Node.keepOnly kept (.section opening inner' closing)) := by
      unfold Node.keepOnly
      split
      · exact inside
      · exact alike_empty
    exact here.append inductionHypothesis

/-- Sections that depend on errors are settled alike. -/
theorem settleErrors_alike {left right errors : String} (alike : Text.Alike left right)
    (shown : Text.Plain errors) :
    Text.Alike (settleErrors errors left) (settleErrors errors right) :=
  (parse_inStep alike ["ifFormErrors"]).fillErrors shown

/-- Sections for expandable and for other forms are settled alike. -/
theorem settleExpandable_alike {left right : String} (alike : Text.Alike left right)
    (expandable : Bool) :
    Text.Alike (settleExpandable expandable left) (settleExpandable expandable right) := by
  cases expandable with
  | false => exact (parse_inStep alike ["noShowExpandable", "ifExpandable"]).keepOnly _
  | true => exact (parse_inStep alike ["ifExpandable", "noShowExpandable"]).keepOnly _

end Node

end Formwork
