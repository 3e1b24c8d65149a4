import Formwork.Form.Basic
import Formwork.Proofs.JoinedTexts
import Mathlib.Data.Set.Function

/-!
# What row identifiers tell apart

The identifier of a row is the digest of its key's values with bars between them.
Bars inside a value are not told from those between values, so what the digested
text still says is the pieces of all values, one value's after the other's. Where
the digest tells the texts apart, two rows have the same identifier if and only if
their values have the same pieces, and values that hold equally many bars each are
then the same values.
-/

namespace Formwork

namespace Form

/-! ## Identifiers -/

/-- The text that identifies a row: its key's values with bars between them. -/
def keyText (key : PrimaryKey) : String := Text.joinWith "|" (key.map (·.2))

/-- The pieces between bars of all values, in order. -/
def keyPieces (key : PrimaryKey) : List String := (key.map (·.2)).flatMap (Text.split '|')

/-- The number of bars in every value, in order. -/
def keyBars (key : PrimaryKey) : List Nat := key.map (·.2.toList.count '|')

/-- The identifying text tells the pieces, and no more. -/
theorem keyText_eq_iff {left right : PrimaryKey}
    (names : left.map Prod.fst = right.map Prod.fst) :
    keyText left = keyText right ↔ keyPieces left = keyPieces right := by
  cases left with
  | nil =>
    obtain rfl := List.map_eq_nil_iff.mp names.symm
    exact iff_of_true rfl rfl
  | cons first rest =>
    cases right with
    | nil => cases names
    | cons other others =>
      have split (column : String × String) (key : PrimaryKey) :
          Text.split '|' (keyText (column :: key)) = keyPieces (column :: key) :=
        Text.split_joinWith '|' (List.cons_ne_nil _ _)
      rw [← split, ← split, (Text.split_injective '|').eq_iff]

/-- Where the digest tells the identifying texts apart, identifiers are the same if
and only if all pieces are. -/
theorem rowIdentifier_eq_iff {left right : PrimaryKey}
    (names : left.map Prod.fst = right.map Prod.fst)
    (apart : Set.InjOn Sha256.ofText {keyText left, keyText right}) :
    rowIdentifier left = rowIdentifier right ↔ keyPieces left = keyPieces right := by
  rw [← keyText_eq_iff names]
  exact apart.eq_iff (.inl rfl) (.inr rfl)

/-- The pieces tell the values whose numbers of bars are known. -/
theorem eq_of_keyPieces {left right : PrimaryKey}
    (names : left.map Prod.fst = right.map Prod.fst) (bars : keyBars left = keyBars right)
    (pieces : keyPieces left = keyPieces right) : left = right := by
  induction left generalizing right with
  | nil => exact (List.map_eq_nil_iff.mp names.symm).symm
  | cons column rest inductionHypothesis =>
    cases right with
    | nil => cases names
    | cons other others =>
      obtain ⟨name, names⟩ := List.cons.inj names
      obtain ⟨bar, bars⟩ := List.cons.inj bars
      have lengths : (Text.split '|' column.2).length = (Text.split '|' other.2).length := by
        rw [Text.length_split, Text.length_split]
        exact congrArg (· + 1) bar
      obtain ⟨first, pieces⟩ := List.append_inj pieces lengths
      have same : column = other := Prod.ext name (Text.split_injective '|' first)
      rw [same, inductionHypothesis names bars pieces]

/-- Where the digest tells the identifying texts apart, the identifier tells keys of
the same columns apart up to the bars in their values: keys are the same if and only
if their identifiers are and their values hold equally many bars. -/
theorem eq_iff_rowIdentifier_eq {left right : PrimaryKey}
    (names : left.map Prod.fst = right.map Prod.fst)
    (apart : Set.InjOn Sha256.ofText {keyText left, keyText right}) :
    left = right ↔ rowIdentifier left = rowIdentifier right ∧ keyBars left = keyBars right := by
  constructor
  · rintro rfl
    exact ⟨rfl, rfl⟩
  · rintro ⟨identifiers, bars⟩
    exact eq_of_keyPieces names bars ((rowIdentifier_eq_iff names apart).mp identifiers)

/-- The key of a house in York. -/
def yorkKey : PrimaryKey := [("street", "High"), ("town", "York")]

/-- The key of a house in Bath. -/
def bathKey : PrimaryKey := [("street", "High"), ("town", "Bath")]

/-- The two houses have different identifiers, as no bar is in their keys. -/
theorem rowIdentifier_of_houses :
    yorkKey.map Prod.fst = bathKey.map Prod.fst ∧
      Set.InjOn Sha256.ofText {keyText yorkKey, keyText bathKey} ∧
      keyBars yorkKey = keyBars bathKey ∧ rowIdentifier yorkKey ≠ rowIdentifier bathKey := by
  have names : yorkKey.map Prod.fst = bathKey.map Prod.fst := rfl
  have bars : keyBars yorkKey = keyBars bathKey := by decide
  have digests : Sha256.ofText (keyText yorkKey) ≠ Sha256.ofText (keyText bathKey) := by
    decide +kernel
  have apart : Set.InjOn Sha256.ofText {keyText yorkKey, keyText bathKey} := by
    rintro left (rfl | rfl) right (rfl | rfl) equal
    · rfl
    · exact absurd equal digests
    · exact absurd equal.symm digests
    · rfl
  refine ⟨names, apart, bars, fun same => ?_⟩
  have keys : yorkKey = bathKey := (eq_iff_rowIdentifier_eq names apart).mpr ⟨same, bars⟩
  exact absurd keys (by decide)

/-- Bars are not told from those between values: two keys of the same columns, with
different values throughout, are identified by the same text. -/
theorem rowIdentifier_confuses_bars :
    ¬ ∀ left right : PrimaryKey, left.map Prod.fst = right.map Prod.fst →
      Set.InjOn Sha256.ofText {keyText left, keyText right} →
      rowIdentifier left = rowIdentifier right → left = right := by
  intro separates
  have text : keyText [("street", "a|b"), ("town", "c")] =
      keyText [("street", "a"), ("town", "b|c")] := by decide
  have keys := separates [("street", "a|b"), ("town", "c")] [("street", "a"), ("town", "b|c")] rfl
    (by simp [text]) (congrArg Sha256.ofText text)
  exact absurd keys (by decide)

end Form

end Formwork
