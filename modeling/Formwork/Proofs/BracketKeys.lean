import Formwork.Submission

/-!
# Keys and the paths they stand for

A path can be written out again: its head, and each further segment in brackets. The path
of a key written out is the key, whether its brackets are groups or it is one segment as a
whole. So different keys stand for different paths, and what is posted under one key is
never filed over what is posted under another by mistaking the keys.

The other way round, a head without an opening bracket and segments without closing ones
are read back from the key that they are written as. These are the only keys that have
more than one segment: a bracket that stands anywhere else makes the key one segment.
-/

namespace Formwork.Submission

/-- The characters of a segment in brackets. -/
def bracketed (segment : String) : List Char := '[' :: (segment.toList ++ [']'])

/-- The key that a path is written as. -/
def spelledKey : List String → String
  | [] => ""
  | head :: segments => String.ofList (head.toList ++ segments.flatMap bracketed)

/-- Characters in which groups are read are those of the groups. Within a group, those
collected before are the beginning of its segment.

Proof: induction on the characters, in both states of the reader at once. An opening
bracket starts a group with nothing collected, and a closing one ends the group and goes
on between groups. -/
theorem groups?_written (chars : List Char) :
    (∀ segments, groups? none chars = some segments → segments.flatMap bracketed = chars) ∧
      ∀ reversed segments, groups? (some reversed) chars = some segments →
        segments.flatMap bracketed = '[' :: (reversed.reverse ++ chars) := by
  induction chars with
  | nil => simp [groups?]
  | cons c rest inductionHypothesis =>
    obtain ⟨between, within⟩ := inductionHypothesis
    constructor
    · intro segments read
      rw [groups?] at read
      split at read
      · rename_i opens
        rw [within [] segments read, opens]
        rfl
      · cases read
    · intro reversed segments read
      rw [groups?] at read
      split at read
      · rename_i closes
        obtain ⟨later, found, rfl⟩ := Option.map_eq_some_iff.mp read
        rw [List.flatMap_cons, between later found, bracketed, String.toList_ofList, closes]
        simp
      · rw [within _ _ read]
        simp

/-- Behind what was collected of a segment, its other characters and a closing bracket end the
group. -/
theorem groups?_close {chars : List Char} (closed : ']' ∉ chars) (reversed rest : List Char) :
    groups? (some reversed) (chars ++ ']' :: rest) =
      (groups? none rest).map (String.ofList (reversed.reverse ++ chars) :: ·) := by
  induction chars generalizing reversed with
  | nil => simp [groups?]
  | cons c others inductionHypothesis =>
    rw [List.mem_cons, not_or] at closed
    rw [List.cons_append, groups?, if_neg (Ne.symm closed.1), inductionHypothesis closed.2]
    simp

/-- No segment that is read holds a closing bracket: the first one behind an opening bracket
ends the group. -/
theorem groups?_closed (chars : List Char) :
    (∀ segments, groups? none chars = some segments → ∀ segment ∈ segments, ']' ∉ segment.toList) ∧
      ∀ reversed segments, ']' ∉ reversed → groups? (some reversed) chars = some segments →
        ∀ segment ∈ segments, ']' ∉ segment.toList := by
  induction chars with
  | nil => simp [groups?]
  | cons c rest inductionHypothesis =>
    obtain ⟨between, within⟩ := inductionHypothesis
    constructor
    · intro segments read
      rw [groups?] at read
      split at read
      · exact within [] segments List.not_mem_nil read
      · cases read
    · intro reversed segments closed read
      rw [groups?] at read
      split at read
      · obtain ⟨later, found, rfl⟩ := Option.map_eq_some_iff.mp read
        refine List.forall_mem_cons.mpr ⟨?_, between later found⟩
        simpa using closed
      · rename_i other
        refine within _ segments ?_ read
        rw [List.mem_cons, not_or]
        exact ⟨Ne.symm other, closed⟩

/-- Groups are read from characters exactly when the characters are those of the groups and no
segment holds a closing bracket. -/
theorem groups?_eq_some_iff (chars : List Char) (segments : List String) :
    groups? none chars = some segments ↔
      segments.flatMap bracketed = chars ∧ ∀ segment ∈ segments, ']' ∉ segment.toList := by
  constructor
  · intro read
    exact ⟨(groups?_written chars).1 segments read, (groups?_closed chars).1 segments read⟩
  · rintro ⟨rfl, closed⟩
    induction segments with
    | nil => rfl
    | cons segment rest inductionHypothesis =>
      obtain ⟨here, others⟩ := List.forall_mem_cons.mp closed
      have behind : (segment :: rest).flatMap bracketed =
          '[' :: (segment.toList ++ ']' :: rest.flatMap bracketed) := by
        simp [bracketed]
      rw [behind, groups?, if_pos rfl, groups?_close here, inductionHypothesis others]
      simp

/-- The path of a key, written out, is the key. -/
theorem spelledKey_path (key : String) : spelledKey (path key) = key := by
  unfold path
  dsimp only
  split
  · rename_i segments read
    rw [spelledKey, (groups?_written _).1 segments read, String.toList_ofList,
      List.takeWhile_append_dropWhile, String.ofList_toList]
  · simp [spelledKey]

/-- Different keys stand for different paths. -/
theorem path_injective : Function.Injective path :=
  Function.LeftInverse.injective spelledKey_path

/-- A path has at least one segment. -/
theorem path_ne_nil (key : String) : path key ≠ [] := by
  unfold path
  dsimp only
  split <;> exact List.cons_ne_nil _ _

/-- The segments can stand in a key behind the head: the head holds no opening bracket, and no
segment a closing one. -/
structure Grouped (head : String) (segments : List String) : Prop where
  /-- The head ends at the first opening bracket. -/
  opens : '[' ∉ head.toList
  /-- Every segment ends at the first closing bracket behind its opening one. -/
  closes : ∀ segment ∈ segments, ']' ∉ segment.toList

/-- A head and its groups are read back from the key that they are written as. -/
theorem Grouped.path_spelledKey {head : String} {segments : List String}
    (grouped : Grouped head segments) : path (spelledKey (head :: segments)) = head :: segments := by
  have plain : ∀ c ∈ head.toList, decide (c ≠ '[') = true := by
    intro c member
    simpa using fun same : c = '[' => grouped.opens (same ▸ member)
  have front : (head.toList ++ segments.flatMap bracketed).takeWhile (· ≠ '[') = head.toList := by
    rw [List.takeWhile_append_of_pos plain]
    cases segments <;> simp [bracketed]
  have behind : (head.toList ++ segments.flatMap bracketed).dropWhile (· ≠ '[') =
      segments.flatMap bracketed := by
    rw [List.dropWhile_append_of_pos plain]
    cases segments <;> simp [bracketed]
  unfold path spelledKey
  dsimp only
  rw [String.toList_ofList, front, behind, (groups?_eq_some_iff _ _).mpr ⟨rfl, grouped.closes⟩,
    String.ofList_toList]

/-- A path is a head with its groups, or the key as a whole. -/
theorem path_cases (key : String) :
    (∃ head segments, path key = head :: segments ∧ Grouped head segments) ∨ path key = [key] := by
  unfold path
  dsimp only
  split
  · rename_i segments read
    refine .inl ⟨_, _, rfl, ?_, ((groups?_eq_some_iff _ _).mp read).2⟩
    rw [String.toList_ofList]
    intro member
    simpa using List.all_eq_true.mp List.all_takeWhile '[' member
  · exact .inr rfl

/-- A key with one segment in brackets is a path of two segments. -/
theorem path_bracketed {name segment : String} (plain : '[' ∉ name.toList)
    (closed : ']' ∉ segment.toList) : path (name ++ "[" ++ segment ++ "]") = [name, segment] := by
  have grouped : Grouped name [segment] := ⟨plain, by simpa using closed⟩
  have written : name ++ "[" ++ segment ++ "]" = spelledKey [name, segment] := by
    simp [spelledKey, bracketed, ← String.toList_inj]
  rw [written, grouped.path_spelledKey]

/-- Keys are read by their grammar. The path of a key has more than one segment exactly when the
key is a head without an opening bracket and groups behind it, at least one, each a segment without
a closing bracket in brackets, and nothing behind the last; the path of any other key is the key as
a whole. A path written out is the key that it was read from, and every head with its groups is
read back from the key that it is written as. -/
theorem keys_read_by_grammar :
    (∀ key,
      (1 < (path key).length ↔
        ∃ head segments, segments ≠ [] ∧ Grouped head segments ∧
          key = spelledKey (head :: segments)) ∧
      ((path key).length ≤ 1 → path key = [key]) ∧ spelledKey (path key) = key) ∧
    ∀ head segments, Grouped head segments →
      path (spelledKey (head :: segments)) = head :: segments := by
  refine ⟨fun key => ⟨⟨fun more => ?_, ?_⟩, fun few => ?_, spelledKey_path key⟩,
    fun _ _ grouped => grouped.path_spelledKey⟩
  · obtain ⟨head, segments, read, grouped⟩ | whole := path_cases key
    · refine ⟨head, segments, ?_, grouped, ?_⟩
      · rintro rfl
        simp [read] at more
      · rw [← read, spelledKey_path]
    · simp [whole] at more
  · rintro ⟨head, segments, some, grouped, rfl⟩
    rw [grouped.path_spelledKey]
    simpa [List.length_pos_iff] using some
  · obtain ⟨head, segments, read, -⟩ | whole := path_cases key
    · have alone : segments = [] := by
        simpa [read] using few
      have written := spelledKey_path key
      rw [read, alone] at written ⊢
      simpa [spelledKey] using written
    · exact whole

/-- A key with an opening bracket in a segment and an empty segment at its end is read as its
groups, and one with a character behind its groups as a whole. -/
theorem tags_read_by_grammar :
    Grouped "tags" ["a[b", ""] ∧ path "tags[a[b][]" = ["tags", "a[b", ""] ∧
      (path "tags[a]x").length ≤ 1 ∧ path "tags[a]x" = ["tags[a]x"] ∧
      ¬ ∃ head segments, segments ≠ [] ∧ Grouped head segments ∧
        "tags[a]x" = spelledKey (head :: segments) := by
  obtain ⟨read, spelled⟩ := keys_read_by_grammar
  have grouped : Grouped "tags" ["a[b", ""] := ⟨by decide, by decide⟩
  have few : (path "tags[a]x").length ≤ 1 := by decide
  refine ⟨grouped, spelled _ _ grouped, few, (read "tags[a]x").2.1 few, ?_⟩
  rw [← (read "tags[a]x").1]
  exact Nat.not_lt.mpr few

end Formwork.Submission
