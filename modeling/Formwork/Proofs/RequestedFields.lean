import Formwork.Proofs.AskedOnce
import Mathlib.Data.List.Induction

/-!
# Requests for fields and the fields that count as emitted

Outside of rows a page asks fields for loops over fields, for the start of the form, for tags
for all fields and for field tags, in two passes. Each of these looks up and counts fields in its
own way, some for many fields at once. All of them ask a field before they count it and count
what they asked, so the fields that count as emitted are those that were requested, in the order
of their first requests, and a whole field is written for its first request alone.
-/

namespace Formwork

/-- One more item is kept behind the distinct ones unless it is one of them. -/
theorem eraseDups_snoc {α : Type} [BEq α] [LawfulBEq α] (items : List α) (item : α) :
    (items ++ [item]).eraseDups =
      if items.contains item then items.eraseDups else items.eraseDups ++ [item] := by
  rw [List.eraseDups_append]
  cases there : items.contains item with
  | true =>
    have left : [item].removeAll items = [] := by
      simpa [List.removeAll] using there
    rw [left, if_pos rfl, List.eraseDups_nil, List.append_nil]
  | false =>
    have left : [item].removeAll items = [item] := by
      simpa [List.removeAll] using there
    rw [left, if_neg Bool.false_ne_true]
    rfl

/-- Distinct items are distinct. -/
theorem nodup_eraseDups {α : Type} [BEq α] [LawfulBEq α] (items : List α) :
    items.eraseDups.Nodup := by
  induction items using List.reverseRecOn with
  | nil => exact List.nodup_nil
  | append_singleton items item inductionHypothesis =>
    rw [eraseDups_snoc]
    split
    · exact inductionHypothesis
    · rename_i fresh
      have apart : item ∉ items.eraseDups := by
        rw [List.mem_eraseDups]
        simpa using fresh
      exact List.nodup_append.mpr ⟨inductionHypothesis, List.nodup_singleton item,
        fun other member last single same => apart (by
          rw [List.mem_singleton.mp single] at same
          exact same ▸ member)⟩

namespace Page

/-- The showing is one of the whole field. -/
def Showing.isWhole (showing : Showing) : Bool :=
  match showing.part with
  | .whole _ => true
  | .input | .label | .unknown _ => false

/-- A showing of a whole field is an entire one, on whatever occasion. -/
theorem Showing.isEntire_of_isWhole {showing : Showing} (whole : showing.isWhole = true) :
    showing.IsEntire := by
  unfold isWhole at whole
  split at whole
  · rename_i layout part
    exact .inr ⟨layout, part⟩
  · cases whole
  · cases whole
  · cases whole

/-- The requests for fields: what is asked of them outside of rows, in order. -/
def requests (showings : List Showing) : List Showing := showings.filter Showing.isUnscoped

/-- The fields that count as emitted are the requested ones, in the order of their first
requests. -/
def InRequestOrder (page : Page) (showings : List Showing) : Prop :=
  page.emitted = ((requests showings).map (·.name)).eraseDups

/-- A field that is asked in a row is not requested. -/
theorem requests_row {showing : Showing} (row : showing.occasion = .row)
    (showings : List Showing) : requests (showings ++ [showing]) = requests showings := by
  have inside : showing.isUnscoped = false := by simp [Showing.isUnscoped, row]
  rw [requests, List.filter_append, List.filter_cons_of_neg (by simp [inside]), List.filter_nil,
    List.append_nil]
  rfl

/-- A field that is asked elsewhere is. -/
theorem requests_elsewhere {showing : Showing} (elsewhere : showing.occasion ≠ .row)
    (showings : List Showing) :
    requests (showings ++ [showing]) = requests showings ++ [showing] := by
  have unscoped : showing.isUnscoped = true := by simp [Showing.isUnscoped, elsewhere]
  rw [requests, List.filter_append, List.filter_cons_of_pos unscoped, List.filter_nil]
  rfl

/-- This lasts while a page is written. -/
theorem inRequestOrder_lasts (request : Request) : Lasting request InRequestOrder where
  beside unasked ordered := by
    unfold InRequestOrder
    rw [unasked.emitted, unasked.noted]
    exact ordered
  cells _ _ _ ordered := ordered
  inRow within asked emitted ordered := by
    unfold InRequestOrder
    rw [emitted, asked.noted, requests_row within]
    exact ordered
  elsewhere {showing before after showings noted} outside _ counted ordered := by
    unfold InRequestOrder at ordered ⊢
    rw [counted.emitted, counted.noted, requests_elsewhere outside, List.map_append,
      List.map_singleton, eraseDups_snoc]
    -- A field counts already exactly when it was requested before.
    have taken : before.isEmitted showing.name =
        ((requests showings).map (·.name)).contains showing.name := by
      rw [isEmitted, ordered, Bool.eq_iff_iff, List.contains_iff_mem, List.contains_iff_mem,
        List.mem_eraseDups]
    unfold marking
    rw [taken]
    split
    · exact ordered
    · exact congrArg (· ++ [showing.name]) ordered

/-- Of a list in which no whole field is requested after a request for it, at most one request
is for the whole field of a name. -/
theorem whole_at_most_once {requests : List Showing}
    (first : requests.Pairwise fun earlier later =>
      later.isWhole = true → earlier.name ≠ later.name) (name : String) :
    (requests.filter fun showing => showing.isWhole && showing.name = name).length ≤ 1 := by
  have apart := first.sublist
    (List.filter_sublist (p := fun showing => showing.isWhole && showing.name = name))
  have each : ∀ showing ∈ requests.filter fun showing => showing.isWhole && showing.name = name,
      showing.isWhole = true ∧ showing.name = name := by
    intro showing member
    simpa using (List.mem_filter.mp member).2
  generalize requests.filter (fun showing => showing.isWhole && showing.name = name) = wholes
    at apart each ⊢
  match wholes with
  | [] => simp
  | [_] => simp
  | one :: another :: rest =>
    obtain ⟨-, named⟩ := each one List.mem_cons_self
    obtain ⟨whole, named'⟩ := each another (List.mem_cons_of_mem _ List.mem_cons_self)
    have differ := (List.pairwise_cons.mp apart).1 another List.mem_cons_self whole
    exact absurd (named.trans named'.symm) differ

/-- What counts as emitted is an account of the requests. Of the requests that a page makes for
the fields of a form with distinct names, outside of rows and in whatever order its loops and
tags stand for fields, one for a whole field comes only when the field was not requested before,
whatever was asked of it, so that no field is written whole more than once; and in the end the
fields that count as emitted are the requested ones, each once and in the order of their first
requests. Writing a page and listing what is asked of fields gives the page. -/
theorem emitted_in_request_order (request : Request) (template : String) (page : Page)
    (distinct : page.form.catalog.names.Nodup) :
    (noteRender request template).run (page, []) =
        (((render request template).run page).1, ((render request template).run page).2,
          showings request template page) ∧
      ((requests (showings request template page)).Pairwise fun earlier later =>
        later.isWhole = true → earlier.name ≠ later.name) ∧
      (∀ name, ((requests (showings request template page)).filter fun showing =>
        showing.isWhole && showing.name = name).length ≤ 1) ∧
      ((render request template).run page).2.emitted =
        ((requests (showings request template page)).map (·.name)).eraseDups ∧
      ((render request template).run page).2.emitted.Nodup := by
  obtain ⟨same, -, -, fresh⟩ := showings_fresh request template page distinct
  obtain ⟨noted, same', ordered⟩ :=
    (inRequestOrder_lasts request).render template page (rfl : InRequestOrder page.start [])
  have listed : showings request template page = noted := by
    rw [showings, same']
  rw [← listed] at ordered
  have first : (requests (showings request template page)).Pairwise fun earlier later =>
      later.isWhole = true → earlier.name ≠ later.name := by
    refine List.pairwise_filter.mpr (fresh.imp fun apart unscoped unscoped' whole => ?_)
    exact apart unscoped unscoped' (Showing.isEntire_of_isWhole whole)
  refine ⟨same, first, whole_at_most_once first, ordered, ?_⟩
  rw [ordered]
  exact nodup_eraseDups _

/-- A form with a hidden mark and a note. -/
def markedForm : Form where
  name := "contact"
  catalog := ⟨[{ field := { name := "mark", input := .hidden } }, { field := { name := "note" } }]⟩
  insertTemplate := ""
  editTemplate := ""
  browserValidation := true

/-- Hidden fields, the label and the input of the note, all fields and the note again. -/
def markedTemplate : String :=
  "\x7bfield name=\"note\" display=\"label\"\x7d\x7bform hidden=\"true\"\x7d"
    ++ "\x7bfield name=\"note\" display=\"field\"\x7d\x7bfields\x7d\x7bfield name=\"note\"\x7d"

/-- The note is requested for its label, before the hidden mark, and for its input; after that
neither of them is. -/
theorem marked_in_request_order :
    markedForm.catalog.names.Nodup ∧
      (requests (showings markRequest markedTemplate { form := markedForm })).map (·.name) =
        ["note", "mark", "note"] ∧
      ((render markRequest markedTemplate).run { form := markedForm }).2.emitted =
        ["note", "mark"] := by
  have distinct : markedForm.catalog.names.Nodup := by decide
  have requested : (requests (showings markRequest markedTemplate { form := markedForm })).map
      (·.name) = ["note", "mark", "note"] := by decide +kernel
  have account :=
    (emitted_in_request_order markRequest markedTemplate { form := markedForm } distinct).2.2.2.1
  refine ⟨distinct, requested, ?_⟩
  rw [account, requested]
  decide

end Page

end Formwork
