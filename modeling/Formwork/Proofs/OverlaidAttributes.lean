import Formwork.Proofs.AttributeNames
import Formwork.Proofs.AttributeRewriting

/-!
# Attributes as an ordered map

However attributes are made, each of their names stands once. So they are known by two
things: their names in order, and the value that is found under each name. Every operation
is told by what it does to these two, and attributes that agree in both are the same.
Overlaying keeps the names on the left in their order, adds the new ones from the right
behind them, and finds a value on the right first. From that alone it follows that overlays
can be grouped at will, and that nothing changes when no attributes are laid over others,
or the same ones again.
-/

namespace Formwork

namespace Attributes

/-! ## Names and values -/

/-- The first pair is found under its name, and the others under all other names. -/
theorem get?_cons (first stored : String) (rest : List (String × String)) (name : String) :
    (Attributes.mk ((first, stored) :: rest)).get? name =
      if name = first then some stored else (Attributes.mk rest).get? name := by
  by_cases same : name = first
  · simp [get?, same]
  · simp [get?, same, Ne.symm same]

/-- No value is found exactly under the names that are not there. -/
theorem get?_eq_none_iff {attributes : Attributes} {name : String} :
    attributes.get? name = none ↔ name ∉ attributes.names := by
  rw [get?, Option.map_eq_none_iff, List.find?_eq_none, names, List.mem_map]
  constructor
  · rintro apart ⟨pair, there, same⟩
    exact apart pair there (decide_eq_true same)
  · intro absent pair there same
    exact absent ⟨pair, there, of_decide_eq_true same⟩

/-- Attributes with distinct names are their names in order, with the values found under them. -/
theorem filterMap_names {attributes : Attributes} (distinct : attributes.Distinct) :
    (attributes.names.filterMap fun name => (attributes.get? name).map (name, ·)) =
      attributes.pairs := by
  obtain ⟨pairs⟩ := attributes
  induction pairs with
  | nil => rfl
  | cons pair rest inductionHypothesis =>
    obtain ⟨first, stored⟩ := pair
    obtain ⟨absent, later⟩ := List.nodup_cons.mp distinct
    have found : (Attributes.mk ((first, stored) :: rest)).get? first = some stored := by
      rw [get?_cons, if_pos rfl]
    have others : ∀ name ∈ (Attributes.mk rest).names,
        ((Attributes.mk ((first, stored) :: rest)).get? name).map (name, ·) =
          ((Attributes.mk rest).get? name).map (name, ·) := by
      intro name member
      have apart : name ≠ first := fun same => absent (same ▸ member)
      rw [get?_cons, if_neg apart]
    have split : (Attributes.mk ((first, stored) :: rest)).names =
        first :: (Attributes.mk rest).names := rfl
    rw [split, List.filterMap_cons, found, List.filterMap_congr others, inductionHypothesis later]
    rfl

/-- So they are the same if their names are the same, in order, and their values are. -/
theorem eq_of_names_of_get? {left right : Attributes} (leftDistinct : left.Distinct)
    (rightDistinct : right.Distinct) (names : left.names = right.names)
    (values : ∀ name, left.get? name = right.get? name) : left = right := by
  obtain ⟨leftPairs⟩ := left
  obtain ⟨rightPairs⟩ := right
  have known := filterMap_names leftDistinct
  simp only [names, values] at known
  rw [filterMap_names rightDistinct] at known
  exact congrArg Attributes.mk known.symm

/-! ## Writing and leaving out -/

/-- A value that is set is found under its name, and under no other. -/
theorem get?_set (attributes : Attributes) (name value other : String) :
    (attributes.set name value).get? other =
      if other = name then some value else attributes.get? other := by
  by_cases same : other = name
  · subst same
    rw [if_pos rfl]
    obtain ⟨pairs⟩ := attributes
    unfold set
    dsimp only
    induction pairs with
    | nil => rw [setPair, get?_cons, if_pos rfl]
    | cons pair rest inductionHypothesis =>
      obtain ⟨first, stored⟩ := pair
      unfold setPair
      by_cases here : first = other
      · rw [if_pos here, get?_cons, if_pos here.symm]
      · rw [if_neg here, get?_cons, if_neg (Ne.symm here), inductionHypothesis]
  · rw [if_neg same, get?_set_of_ne (Ne.symm same)]

/-- A name that is left out leaves the others in their order. -/
theorem names_erase_filter {attributes : Attributes} (distinct : attributes.Distinct)
    (name : String) :
    (attributes.erase name).names = attributes.names.filter (· ≠ name) := by
  have kept : attributes.names.erase name = attributes.names.filter (· != name) :=
    List.Nodup.erase_eq_filter distinct name
  rw [names_erase, kept]
  refine List.filter_congr fun other _ => ?_
  rw [Bool.eq_iff_iff, bne_iff_ne, decide_eq_true_eq]

/-- What is left out is not found any more, and everything else as before. -/
theorem get?_erase {attributes : Attributes} (distinct : attributes.Distinct)
    (name other : String) :
    (attributes.erase name).get? other =
      if other = name then none else attributes.get? other := by
  by_cases same : other = name
  · subst same
    rw [if_pos rfl, get?_eq_none_iff, mem_names_erase distinct]
    exact fun member => member.1 rfl
  · rw [if_neg same]
    obtain ⟨pairs⟩ := attributes
    unfold erase
    dsimp only
    clear distinct
    induction pairs with
    | nil => rfl
    | cons pair rest inductionHypothesis =>
      obtain ⟨first, stored⟩ := pair
      by_cases here : first = name
      · have apart : other ≠ first := fun equal => same (equal.trans here)
        rw [List.eraseP_cons_of_pos (by simpa using here), get?_cons, if_neg apart]
      · rw [List.eraseP_cons_of_neg (by simpa using here), get?_cons, get?_cons,
          inductionHypothesis]

/-! ## Overlaying -/

/-- Pairs that are written one after another add the new ones among their names, in order. -/
theorem names_setAll (attributes : Attributes) {pairs : List (String × String)}
    (distinct : (pairs.map Prod.fst).Nodup) :
    (attributes.setAll pairs).names = attributes.names ++
      (pairs.map Prod.fst).filter fun name => name ∉ attributes.names := by
  induction pairs generalizing attributes with
  | nil => simp [setAll]
  | cons pair rest inductionHypothesis =>
    obtain ⟨first, value⟩ := pair
    obtain ⟨absent, later⟩ := List.nodup_cons.mp distinct
    have next : attributes.setAll ((first, value) :: rest) =
        (attributes.set first value).setAll rest := rfl
    have fresh : (rest.map Prod.fst).filter (fun name => name ∉ (attributes.set first value).names) =
        (rest.map Prod.fst).filter fun name => name ∉ attributes.names := by
      refine List.filter_congr fun name member => decide_eq_decide.mpr (not_congr ?_)
      have apart : name ≠ first := fun same => absent (same ▸ member)
      rw [mem_names_set, or_iff_left apart]
    rw [next, inductionHypothesis _ later, fresh, names_set, List.map_cons, List.filter_cons]
    by_cases there : first ∈ attributes.names
    · simp [there]
    · simp [there]

/-- Under a name the value written for it is found, or else the one that was there. -/
theorem get?_setAll (attributes : Attributes) {pairs : List (String × String)}
    (distinct : (pairs.map Prod.fst).Nodup) (name : String) :
    (attributes.setAll pairs).get? name =
      ((Attributes.mk pairs).get? name).or (attributes.get? name) := by
  induction pairs generalizing attributes with
  | nil => rfl
  | cons pair rest inductionHypothesis =>
    obtain ⟨first, value⟩ := pair
    obtain ⟨absent, later⟩ := List.nodup_cons.mp distinct
    have next : attributes.setAll ((first, value) :: rest) =
        (attributes.set first value).setAll rest := rfl
    rw [next, inductionHypothesis _ later, get?_set, get?_cons]
    by_cases same : name = first
    · have none : (Attributes.mk rest).get? name = none :=
        get?_eq_none_iff.mpr (same ▸ absent)
      rw [if_pos same, if_pos same, none, Option.none_or, Option.some_or]
    · rw [if_neg same, if_neg same]

/-- An overlay has the names on the left, and behind them the new ones from the right. -/
theorem names_merge (left : Attributes) {right : Attributes} (distinct : right.Distinct) :
    (left.merge right).names =
      left.names ++ right.names.filter fun name => name ∉ left.names :=
  names_setAll left distinct

/-- A value is found on the right first. -/
theorem get?_merge (left : Attributes) {right : Attributes} (distinct : right.Distinct)
    (name : String) :
    (left.merge right).get? name = (right.get? name).or (left.get? name) :=
  get?_setAll left distinct name

/-- The names of an overlay are distinct if those on the left are. -/
theorem Distinct.merge {left : Attributes} (distinct : left.Distinct) (right : Attributes) :
    (left.merge right).Distinct := distinct.setAll right.pairs

section

variable {first second third : Attributes} (one : first.Distinct) (two : second.Distinct)
  (three : third.Distinct)
include one

/-- Attributes laid over none are all that is there. -/
theorem empty_merge : empty.merge first = first := setAll_distinct one

/-- Attributes laid over themselves change nothing. -/
theorem merge_self : first.merge first = first := by
  refine eq_of_names_of_get? (one.merge first) one ?_ fun name => ?_
  · have none : first.names.filter (fun name => name ∉ first.names) = [] := by simp
    rw [names_merge first one, none, List.append_nil]
  · rw [get?_merge first one, Option.or_self]

include two three

/-- Overlays can be grouped at will.

Proof: the names on both sides are those of the first, then the new ones of the second, then those
of the third that are new to both; a value is found in the third first, and in the first last. -/
theorem merge_assoc : (first.merge second).merge third = first.merge (second.merge third) := by
  have inner := two.merge third
  refine eq_of_names_of_get? ((one.merge second).merge third) (one.merge _) ?_ fun name => ?_
  · have new : third.names.filter (fun name => name ∉ (first.merge second).names) =
        (third.names.filter fun name => name ∉ second.names).filter
          fun name => name ∉ first.names := by
      rw [List.filter_filter]
      refine List.filter_congr fun name _ => ?_
      rw [← Bool.decide_and, decide_eq_decide, names_merge first two, List.mem_append,
        List.mem_filter, decide_eq_true_eq]
      tauto
    rw [names_merge _ three, new, names_merge first two, names_merge first inner,
      names_merge second three, List.filter_append, List.append_assoc]
  · rw [get?_merge _ three, get?_merge first two, get?_merge first inner, get?_merge second three,
      Option.or_assoc]

end

/-! ## Attributes that are made -/

/-- Attributes made by reading texts, collecting pairs (none at all gives no attributes), writing
values, leaving out names and overlaying what was made before. -/
inductive Made : Attributes → Prop where
  | parse (text : String) : Made (parse text)
  | ofList (pairs : List (String × String)) : Made (ofList pairs)
  | set {attributes : Attributes} (made : Made attributes) (name value : String) :
      Made (attributes.set name value)
  | erase {attributes : Attributes} (made : Made attributes) (name : String) :
      Made (attributes.erase name)
  | merge {left right : Attributes} (madeLeft : Made left) (madeRight : Made right) :
      Made (left.merge right)

/-- Each of their names stands once. -/
theorem Made.distinct {attributes : Attributes} (made : Made attributes) :
    attributes.Distinct := by
  induction made with
  | parse text => exact parse_distinct text
  | ofList pairs =>
    have none : empty.Distinct := List.nodup_nil
    exact none.setAll pairs
  | set _ name value before => exact before.set name value
  | erase _ name before => exact before.erase name
  | merge _ _ left _ => exact left.merge _

/-- Attributes that are made are an ordered map. Each name stands once, and names in order and values
by name are all that there is to them. Writing a value changes nothing under other names; the name
keeps its place, or stands behind all others if it is new. Leaving out a name changes nothing under
other names and keeps their order. An overlay has the names on the left in their order and behind
them the new ones from the right in theirs, and of two values that on the right; overlays can be
grouped at will, no attributes change nothing on either side, and neither do the same ones again.

Proof: what is made has distinct names, and all else is known of such attributes. -/
theorem made_is_ordered_map {first second third : Attributes} (one : Made first)
    (two : Made second) (three : Made third) :
    first.names.Nodup ∧
    (first.names = second.names → (∀ name, first.get? name = second.get? name) →
      first = second) ∧
    (∀ name value,
      (first.set name value).names =
        (if name ∈ first.names then first.names else first.names ++ [name]) ∧
      ∀ other, (first.set name value).get? other =
        if other = name then some value else first.get? other) ∧
    (∀ name,
      (first.erase name).names = first.names.filter (· ≠ name) ∧
      ∀ other, (first.erase name).get? other =
        if other = name then none else first.get? other) ∧
    ((first.merge second).names = first.names ++ second.names.filter (· ∉ first.names) ∧
      ∀ name, (first.merge second).get? name = (second.get? name).or (first.get? name)) ∧
    (first.merge second).merge third = first.merge (second.merge third) ∧
    first.merge empty = first ∧ empty.merge first = first ∧ first.merge first = first := by
  have distinct := one.distinct
  refine ⟨distinct, eq_of_names_of_get? distinct two.distinct, fun name value => ?_,
    fun name => ?_, ?_, merge_assoc distinct two.distinct three.distinct, rfl,
    empty_merge distinct, merge_self distinct⟩
  · exact ⟨names_set first name value, get?_set first name value⟩
  · exact ⟨names_erase_filter distinct name, get?_erase distinct name⟩
  · exact ⟨names_merge first two.distinct, get?_merge first two.distinct⟩

/-- Attributes with a repeated name, with a new name and with a name left out, one over the other. -/
theorem labels_are_ordered_map :
    let first := parse "class=\"a\" id='f' class=\"b\""
    let second := (ofList [("title", "t"), ("id", "g")]).set "lang" "en"
    let third := (ofList [("lang", "de"), ("method", "get")]).erase "method"
    (Made first ∧ Made second ∧ Made third) ∧
      (first.merge second).names = ["class", "id", "title", "lang"] ∧
      (first.merge second).get? "id" = some "g" ∧
      (first.merge second).merge third = first.merge (second.merge third) := by
  intro first second third
  have one : Made first := .parse _
  have two : Made second := .set (.ofList _) _ _
  have three : Made third := .erase (.ofList _) _
  obtain ⟨-, -, -, -, ⟨names, values⟩, grouped, -⟩ := made_is_ordered_map one two three
  exact ⟨⟨one, two, three⟩, names.trans (by decide), (values "id").trans (by decide), grouped⟩

end Attributes

end Formwork
