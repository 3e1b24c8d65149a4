import Formwork.Text.Basic
import Mathlib.Data.List.Basic

/-!
# Splitting what was joined

A text is split at every separator, so texts that are joined with separators between them
are split into the pieces of each, and into themselves if they hold no separator. Joining
the pieces again gives the text, and their number tells how many separators it has.
-/

namespace Formwork.Text

/-- Characters are split as lists are. -/
theorem splitChars_eq_splitOn (separator : Char) (chars : List Char) :
    splitChars separator chars = chars.splitOn separator := by
  induction chars with
  | nil => rfl
  | cons c rest inductionHypothesis =>
    obtain ⟨piece, pieces, pieced⟩ :=
      List.exists_cons_of_ne_nil (List.splitOn_ne_nil separator rest)
    rw [splitChars, inductionHypothesis, List.splitOn_cons_eq_if_modifyHead, pieced]
    simp only [beq_iff_eq]
    rfl

/-- What stands before a separator and what stands after it are split on their own. -/
theorem split_append_separator (separator : Char) (text rest : String) :
    split separator (text ++ String.singleton separator ++ rest) =
      split separator text ++ split separator rest := by
  unfold split
  rw [String.toList_append, String.toList_append, String.toList_singleton, List.append_assoc,
    List.singleton_append, splitChars_eq_splitOn, List.splitOn_append_cons_self, List.map_append,
    splitChars_eq_splitOn, splitChars_eq_splitOn]

/-- Joined texts are split into the pieces of each. -/
theorem split_joinWith (separator : Char) {texts : List String} (some : texts ≠ []) :
    split separator (joinWith (String.singleton separator) texts) =
      texts.flatMap (split separator) := by
  induction texts with
  | nil => contradiction
  | cons text rest inductionHypothesis =>
    cases rest with
    | nil => exact (List.append_nil _).symm
    | cons next rest =>
      rw [joinWith.eq_3 _ _ _ (List.cons_ne_nil next rest), split_append_separator,
        inductionHypothesis (List.cons_ne_nil next rest)]
      rfl

/-- Different texts have different pieces. -/
theorem split_injective (separator : Char) : Function.Injective (split separator) := by
  intro left right same
  have pieces : left.toList.splitOn separator = right.toList.splitOn separator := by
    rw [← splitChars_eq_splitOn, ← splitChars_eq_splitOn]
    exact (List.map_inj_right fun _ _ => String.ofList_injective).mp same
  have joined (text : String) :
      [separator].intercalate (text.toList.splitOn separator) = text.toList :=
    List.intercalate_splitOn separator
  apply String.toList_injective
  rw [← joined left, pieces, joined right]

/-- There is one piece more than there are separators. -/
theorem length_split (separator : Char) (text : String) :
    (split separator text).length = text.toList.count separator + 1 := by
  rw [split, List.length_map, splitChars_eq_splitOn]
  induction text.toList with
  | nil => rfl
  | cons c rest inductionHypothesis =>
    rw [List.splitOn_cons_eq_if_modifyHead, List.count_cons]
    split <;> simp [inductionHypothesis]

/-- The pieces of a text, as characters. -/
theorem splitChars_toList (separator : Char) (text : String) :
    splitChars separator text.toList = (split separator text).map String.toList := by
  simp [split, Function.comp_def]

/-- A text without the separator is its only piece. -/
theorem split_absent {separator : Char} {text : String} (absent : separator ∉ text.toList) :
    split separator text = [text] := by
  rw [split, splitChars_eq_splitOn, List.splitOn_eq_singleton absent, List.map_singleton,
    String.ofList_toList]

/-- Joined texts without the separator are the pieces. -/
theorem split_joined {separator : Char} {texts : List String} (some : texts ≠ [])
    (absent : ∀ text ∈ texts, separator ∉ text.toList) :
    split separator (joinWith (String.singleton separator) texts) = texts := by
  have alone : texts.map (split separator) = texts.map fun text => [text] :=
    List.map_congr_left fun text member => split_absent (absent text member)
  rw [split_joinWith separator some, List.flatMap_def, alone, ← List.flatMap_def,
    List.flatMap_singleton']

/-- All pieces are empty if and only if nothing stands there but separators. -/
theorem splitChars_empty_iff (separator : Char) (chars : List Char) :
    (∀ piece ∈ splitChars separator chars, piece = []) ↔ ∀ c ∈ chars, c = separator := by
  rw [splitChars_eq_splitOn]
  induction chars with
  | nil => simp
  | cons c rest inductionHypothesis =>
    rw [List.splitOn_cons_eq_if_modifyHead, List.forall_mem_cons]
    by_cases same : c = separator
    · rw [if_pos (by simpa using same), List.forall_mem_cons, inductionHypothesis]
      exact and_congr_left fun _ => iff_of_true rfl same
    · obtain ⟨piece, pieces, pieced⟩ :=
        List.exists_cons_of_ne_nil (List.splitOn_ne_nil separator rest)
      rw [if_neg (by simpa using same), pieced]
      simp [same]

end Formwork.Text
