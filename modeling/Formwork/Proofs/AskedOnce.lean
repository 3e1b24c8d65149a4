import Formwork.Proofs.AskedFields
import Formwork.Proofs.RepeatedRows

/-!
# Fields are asked once

Every way to write a whole field outside of rows looks first whether the field counts as
emitted, and counts it. So a field that no tag asks for by name is asked at most once
outside of rows, and hidden fields, which no loop gives to its tags, are asked at most
once unless the template names them. What was written for a field is text from then on:
a loop over rows that comes later repeats it with the rest of its body.
-/

namespace Formwork.Page

/-- The showing is not one of a row. -/
def Showing.isUnscoped (showing : Showing) : Bool := showing.occasion ≠ .row

/-- The showing is not one for a field tag that asks for part of the field it names. -/
def Showing.IsEntire (showing : Showing) : Prop :=
  showing.occasion ≠ .named ∨ ∃ layout, showing.part = .whole layout

/-- Fields that were asked outside of rows count as emitted, and an entire field was not
asked there before. -/
structure AskedFresh (page : Page) (showings : List Showing) : Prop where
  /-- Names of fields are distinct. -/
  distinct : page.form.catalog.names.Nodup
  /-- Whatever was asked outside of rows counts as emitted. -/
  counted : ∀ showing ∈ showings, showing.isUnscoped = true → page.isEmitted showing.name = true
  /-- Entire fields were not asked there before. -/
  fresh : showings.Pairwise fun earlier later =>
    earlier.isUnscoped = true → later.isUnscoped = true → later.IsEntire →
      earlier.name ≠ later.name

/-- One more field is asked. -/
theorem AskedFresh.asks {request : Request} {showing : Showing} {before after : Page}
    {showings noted : List Showing} (once : AskedFresh before showings)
    (asked : Asked request showing before showings after noted)
    (keeps : ∀ name, before.isEmitted name = true → after.isEmitted name = true)
    (counts : showing.isUnscoped = true → after.isEmitted showing.name = true)
    (first : showing.isUnscoped = true → showing.IsEntire →
      before.isEmitted showing.name = false) : AskedFresh after noted := by
  refine ⟨?_, ?_, ?_⟩
  · rw [asked.catalog, presenting_names]
    exact once.distinct
  · rw [asked.noted]
    intro other member unscoped
    rcases List.mem_append.mp member with earlier | last
    · exact keeps _ (once.counted other earlier unscoped)
    · obtain rfl := List.mem_singleton.mp last
      exact counts unscoped
  · rw [asked.noted]
    refine List.pairwise_append.mpr ⟨once.fresh, List.pairwise_singleton _ _, ?_⟩
    intro earlier member later last unscoped unscoped' entire same
    obtain rfl := List.mem_singleton.mp last
    have taken := once.counted earlier member unscoped
    rw [same, first unscoped' entire] at taken
    cases taken

/-- This lasts while a page is written. -/
theorem askedFresh_lasts (request : Request) : Lasting request AskedFresh where
  beside unasked once := by
    refine ⟨?_, ?_, ?_⟩
    · rw [unasked.catalog]
      exact once.distinct
    · unfold isEmitted
      rw [unasked.noted, unasked.emitted]
      exact once.counted
    · rw [unasked.noted]
      exact once.fresh
  cells row page showings once := by
    have kept : ((noteCells row).run page).2.form.catalog.names = page.form.catalog.names :=
      (noteCells_calm row page).form.names
    exact ⟨kept ▸ once.distinct, once.counted, once.fresh⟩
  inRow within asked emitted once := by
    refine once.asks asked (fun name taken => ?_) (fun unscoped => ?_) fun unscoped _ => ?_
    · unfold isEmitted at *
      rw [emitted]
      exact taken
    · simp [Showing.isUnscoped, within] at unscoped
    · simp [Showing.isUnscoped, within] at unscoped
  elsewhere _ first counted once := by
    refine once.asks counted.toAsked (fun name taken => ?_) (fun _ => ?_)
      fun _ entire => first once.distinct entire
    · rw [counted.isEmitted, taken, Bool.true_or]
    · rw [counted.isEmitted, beq_self_eq_true, Bool.or_true]

/-- What is asked while a page is written from distinct fields, entire fields first. -/
theorem showings_fresh (request : Request) (template : String) (page : Page)
    (distinct : page.form.catalog.names.Nodup) :
    (noteRender request template).run (page, []) =
        (((render request template).run page).1, ((render request template).run page).2,
          showings request template page) ∧
      AskedFresh ((render request template).run page).2 (showings request template page) := by
  have kept : page.start.form.catalog.names = page.form.catalog.names :=
    (start_calm page).form.names
  have starts : AskedFresh page.start [] :=
    ⟨kept ▸ distinct, fun _ member => (by cases member), List.Pairwise.nil⟩
  obtain ⟨noted, same, once⟩ := (askedFresh_lasts request).render template page starts
  have listed : showings request template page = noted := by
    rw [showings, same]
  rw [listed]
  exact ⟨same, once⟩

/-- Of the fields of a form with distinct names each is asked at most once outside of rows
unless a tag names it, however many loops and tags stand for it and however these are
nested. Writing a page and listing what is asked of fields gives the page.

The tags meant are those that the last pass finds. A pass that renames a tag writes it as
text, and a quotation mark within an attribute then ends the attribute, so the template
alone does not tell the names. -/
theorem unnamed_asked_once (request : Request) (template : String) (page : Page)
    (distinct : page.form.catalog.names.Nodup) (name : String)
    (unnamed : ∀ showing ∈ showings request template page,
      showing.occasion = .named → showing.name ≠ name) :
    (noteRender request template).run (page, []) =
        (((render request template).run page).1, ((render request template).run page).2,
          showings request template page) ∧
      ((showings request template page).filter fun showing =>
        showing.isUnscoped && showing.name = name).length ≤ 1 := by
  obtain ⟨same, -, -, fresh⟩ := showings_fresh request template page distinct
  refine ⟨same, ?_⟩
  have apart := fresh.sublist (List.filter_sublist (p := fun showing =>
    showing.isUnscoped && showing.name = name))
  have each : ∀ showing ∈ (showings request template page).filter fun showing =>
      showing.isUnscoped && showing.name = name,
      showing.isUnscoped = true ∧ showing.name = name ∧ showing.IsEntire := by
    intro showing member
    obtain ⟨listed, accepted⟩ := List.mem_filter.mp member
    obtain ⟨unscoped, named⟩ := Bool.and_eq_true_iff.mp accepted
    have named := of_decide_eq_true named
    exact ⟨unscoped, named, .inl fun tag => unnamed showing listed tag named⟩
  -- Of two showings in this list the later one would be of an entire field asked before.
  generalize (showings request template page).filter (fun showing =>
    showing.isUnscoped && showing.name = name) = asked at apart each ⊢
  match asked with
  | [] => simp
  | [_] => simp
  | first :: second :: rest =>
    obtain ⟨unscoped, named, -⟩ := each first List.mem_cons_self
    obtain ⟨unscoped', named', entire⟩ :=
      each second (List.mem_cons_of_mem _ List.mem_cons_self)
    have differ :=
      (List.pairwise_cons.mp apart).1 second List.mem_cons_self unscoped unscoped' entire
    exact absurd (named.trans named'.symm) differ

/-- A table of people. -/
def markBinding : Binding where
  table := "people"
  connection := "appDB"

/-- Two people. -/
def markRows : List Row := [⟨[("id", .int 1)]⟩, ⟨[("id", .int 2)]⟩]

/-- A database that knows them. -/
def markConnection : Connection where
  vendor := "sqlite"
  answer := fun _ _ => .ok markRows

/-- A form with a hidden mark, for the table. -/
def markForm : Form where
  name := "contact"
  catalog := ⟨[{ field := { name := "mark", input := .hidden, value := "m" } }]⟩
  binding := some markBinding
  insertTemplate := ""
  editTemplate := ""
  browserValidation := true

/-- The table is to be shown. -/
def markRequest : Request where
  kind := .table
  formId := "fid"
  options := { noFormTag := true }
  connections :=
    { defaultName := "appDB"
      byName := .ofList [("appDB", markConnection)] }
  issuer := fun number => ⟨"cid" ++ Decimal.natText number, "tok" ++ Decimal.natText number⟩

/-- Two tags stand for the hidden mark, which is asked once. -/
theorem mark_asked_once :
    markForm.catalog.names.Nodup ∧
      (∀ showing ∈ showings markRequest "\x7bfields\x7d\x7bfields\x7d" { form := markForm },
        showing.occasion = .named → showing.name ≠ "mark") ∧
      ((showings markRequest "\x7bfields\x7d\x7bfields\x7d" { form := markForm }).filter
        fun showing => showing.isUnscoped && showing.name = "mark").length ≤ 1 := by
  have distinct : markForm.catalog.names.Nodup := by decide
  have unnamed : ∀ showing ∈
      showings markRequest "\x7bfields\x7d\x7bfields\x7d" { form := markForm },
      showing.occasion = .named → showing.name ≠ "mark" := by
    decide +kernel
  exact ⟨distinct, unnamed,
    (unnamed_asked_once markRequest _ { form := markForm } distinct "mark" unnamed).2⟩

/-- Within a loop over two rows its input is written twice: the loop over rows repeats what the
loop over fields in its body has written. -/
theorem hidden_input_repeated :
    markForm.catalog.names.Nodup ∧ Node.Unnamed ["field"] rowsTemplate ∧
      ∃ number, ((render markRequest rowsTemplate).run { form := markForm }).1 =
        formStart markRequest markForm number
          ++ ("<input type=\"hidden\" name=\"mark\" id=\"mark\" value=\"m\" />"
            ++ "<input type=\"hidden\" name=\"mark\" id=\"mark\" value=\"m\" />") := by
  have distinct : markForm.catalog.names.Nodup := by decide
  have plain : markForm.NamesPlain := by
    have names : ∀ field ∈ markForm.catalog.fields, Text.Plain field.name ∧
        ∀ entry ∈ field.attributes.entries, Text.Plain entry.1 := by decide
    exact fun field member => ⟨(names field member).1, (names field member).2⟩
  have resolved : markRequest.connections.resolve (some markBinding.connection) =
      .ok markConnection := rfl
  have filled : markRows ≠ [] := List.cons_ne_nil _ _
  obtain ⟨number, html⟩ := hidden_inputs_per_row markRequest resolved filled { form := markForm }
    distinct plain rfl rfl
  have repeated : String.join (List.replicate markRows.length (Text.trim
      (hiddenInputs markRequest ({ form := markForm } : Page).start.form.catalog))) =
        "<input type=\"hidden\" name=\"mark\" id=\"mark\" value=\"m\" />"
          ++ "<input type=\"hidden\" name=\"mark\" id=\"mark\" value=\"m\" />" := by
    decide +kernel
  have ended : formEnd markRequest = "" := rfl
  rw [repeated, ended, String.append_empty] at html
  exact ⟨distinct, rowsTemplate_unnamed.mono (by simp), number, html⟩

end Formwork.Page
