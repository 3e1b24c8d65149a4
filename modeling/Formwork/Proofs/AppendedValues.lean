import Formwork.Proofs.PostedRows
import Formwork.Proofs.PostedTree

/-!
# What a key with empty brackets adds

A key that ends in empty brackets is filed under the number of values that its field has.
Nothing else of the request changes. So nothing is lost if and only if the field has no
value under that number yet; otherwise the value there is replaced, and the field has as
many values as before. Numbers are used up only by keys that spell them out: where no key
does, the number is always free.
-/

namespace Formwork

namespace Posted

/-! ## Order -/

/-- Members stand in the order of their segments, at every depth. -/
inductive Ordered : Posted → Prop
  /-- A value has no members. -/
  | text (value : String) : Ordered (.text value)
  /-- Members of a group ascend, and each of them is in order itself. -/
  | group {members : Entries Posted} (ascending : members.Ascending)
      (each : ∀ member ∈ members, Ordered member.2) : Ordered (.group members)

/-- Writing something ordered keeps the order. -/
theorem Ordered.insert {members : Entries Posted} (ordered : Ordered (.group members))
    (key : String) {posted : Posted} (inside : Ordered posted) :
    Ordered (.group (members.insert key posted)) := by
  cases ordered with
  | group ascending each =>
    refine .group (ascending.insert key posted) fun member there => ?_
    rcases Entries.mem_insert there with rfl | before
    · exact inside
    · exact each member before

/-- What stands in an ordered group has ordered members. -/
theorem Ordered.membersAt {members : Entries Posted} (ordered : Ordered (.group members))
    (segment : String) : Ordered (.group (membersAt segment members)) := by
  have none_ : Ordered (.group []) := .group List.Pairwise.nil nofun
  cases ordered with
  | group _ each =>
    unfold Posted.membersAt
    cases found : members.get? segment with
    | none => exact none_
    | some posted =>
      have inside := each _ (Entries.mem_of_get? found)
      cases posted with
      | text value => exact none_
      | group inner => exact inside

/-- Filing keeps the order. -/
theorem Ordered.insertAt {members : Entries Posted} (ordered : Ordered (.group members))
    (path : List String) (value : String) : Ordered (.group (insertAt path value members)) := by
  induction path generalizing members with
  | nil => exact ordered
  | cons segment rest inductionHypothesis =>
    by_cases more : rest = []
    · rw [more, Posted.insertAt]
      exact ordered.insert _ (.text value)
    · rw [insertAt_cons more]
      exact ordered.insert _ (inductionHypothesis (ordered.membersAt _))

/-- The members of an ordered group ascend. -/
theorem Ordered.ascending {members : Entries Posted} (ordered : Ordered (.group members)) :
    members.Ascending := by
  cases ordered with
  | group ascending _ => exact ascending

/-! ## Appending -/

/-- The segments that are in use under a field. -/
def segmentsAt (field : String) (members : Entries Posted) : List String :=
  (membersAt field members).map Prod.fst

/-- The segment that the next value is filed under. -/
def nextSegment (field : String) (members : Entries Posted) : String :=
  Decimal.natText (segmentsAt field members).length

/-- Segments are counted with the members. -/
theorem nextSegment_eq (field : String) (members : Entries Posted) :
    nextSegment field members = Decimal.natText (membersAt field members).length := by
  rw [nextSegment, segmentsAt, List.length_map]

/-- An empty segment under a field stands for the next one. -/
theorem insertAt_next {field : String} (named : field ≠ "") (value : String)
    (members : Entries Posted) :
    insertAt [field, ""] value members =
      insertAt [field, nextSegment field members] value members := by
  have next : segmentKey "" (membersAt field members) = nextSegment field members :=
    (nextSegment_eq field members).symm
  have numbered : nextSegment field members ≠ "" := Decimal.natText_ne_empty _
  rw [insertAt_cons (List.cons_ne_nil _ _), insertAt_cons (List.cons_ne_nil _ _),
    segmentKey_of_ne named, insertAt, insertAt, next, segmentKey_of_ne numbered]

/-- A value that is filed under a field adds one segment, unless its segment is in use. -/
theorem length_segmentsAt_insertAt {field segment : String} (named : field ≠ "")
    (numbered : segment ≠ "") {members : Entries Posted} (ordered : Ordered (.group members))
    (value : String) : (segmentsAt field (insertAt [field, segment] value members)).length =
      (segmentsAt field members).length + if segment ∈ segmentsAt field members then 0 else 1 := by
  rw [segmentsAt, insertAt_cons (List.cons_ne_nil _ _), segmentKey_of_ne named, membersAt_insert,
    if_pos rfl, insertAt, segmentKey_of_ne numbered, List.length_map, Posted.members,
    Entries.length_insert (ordered.membersAt field).ascending, segmentsAt, List.length_map]

/-- Nothing stands under a segment that is not in use, nor beyond it. -/
theorem getAt?_unused {field segment : String} {members : Entries Posted}
    (unused : segment ∉ segmentsAt field members) (rest : List String) :
    getAt? (field :: segment :: rest) members = none := by
  have absent : (membersAt field members).get? segment = none := by
    rw [← Option.not_isSome_iff_eq_none, Entries.get?_isSome_iff]
    exact unused
  rw [getAt?_cons (List.cons_ne_nil _ _)]
  by_cases more : rest = []
  · rw [more]
    exact absent
  · rw [getAt?_cons more, membersAt, absent]
    exact getAt?_nil rest

/-- Filing a value under an unused segment of a field that holds no value itself keeps every
value. -/
theorem insertAt_unused_keeps {field segment : String} {members : Entries Posted}
    (named : field ≠ "") (numbered : segment ≠ "")
    (grouped : ∀ text, members.get? field ≠ some (.text text))
    (unused : segment ∉ segmentsAt field members) (value : String) {path : List String}
    {found : String} (there : getAt? path members = some (.text found)) :
    getAt? path (insertAt [field, segment] value members) = some (.text found) := by
  have aside : ¬ InLine path [field, segment] := by
    rintro (onward | ⟨rest, rfl⟩)
    · rcases List.prefix_cons_iff.mp onward with rfl | ⟨further, rfl, second⟩
      · cases there
      · rcases List.prefix_cons_iff.mp second with rfl | ⟨rest, rfl, -⟩
        · exact grouped found there
        · rw [getAt?_unused unused] at there
          cases there
    · rw [List.cons_append, List.cons_append, List.nil_append, getAt?_unused unused] at there
      cases there
  rw [getAt?_insertAt_aside aside (by simp [Ne.symm named, Ne.symm numbered])]
  exact there

/-! ## Numbers in use -/

/-- Filing writes something under the first segment. -/
theorem insertAt_writes (segment : String) (rest : List String) (value : String)
    (members : Entries Posted) : ∃ posted, insertAt (segment :: rest) value members =
      members.insert (segmentKey segment members) posted := by
  cases rest with
  | nil => exact ⟨_, rfl⟩
  | cons next others => exact ⟨_, rfl⟩

/-- The numbers that are in use as segments are below the number of members. -/
def NumbersBelow (members : Entries Posted) : Prop :=
  ∀ number, Decimal.natText number ∈ members.map Prod.fst → number < members.length

/-- As long as they are, the number of members is not in use. -/
theorem NumbersBelow.next {members : Entries Posted} (below : NumbersBelow members) :
    Decimal.natText members.length ∉ members.map Prod.fst :=
  fun used => Nat.lt_irrefl _ (below _ used)

/-- Writing under a segment that is no number keeps it so, and so does an empty segment: it
stands for the next number, which is added to the members with it. -/
theorem NumbersBelow.insert {members : Entries Posted} (below : NumbersBelow members)
    (ascending : members.Ascending) {segment : String}
    (wordy : ∀ number, segment ≠ Decimal.natText number) (posted : Posted) :
    NumbersBelow (members.insert (segmentKey segment members) posted) := by
  intro number used
  rw [Entries.mem_keys_insert] at used
  rw [Entries.length_insert ascending]
  rcases used with same | before
  · by_cases appended : segment = ""
    · rw [appended] at same ⊢
      have unused : segmentKey "" members ∉ members.map Prod.fst := below.next
      have last : number = members.length := Decimal.natText_injective same
      rw [if_neg unused, last]
      exact Nat.lt_succ_self _
    · rw [segmentKey_of_ne appended] at same
      exact absurd same.symm (wordy number)
  · exact Nat.lt_add_right _ (below number before)

/-- Filing keeps it so for the members under a field, if the path names no number as second
segment behind the field. An empty head may stand for any field, so no number may follow it
either. -/
theorem NumbersBelow.insertAt {field : String} {members : Entries Posted}
    (below : NumbersBelow (membersAt field members)) (ordered : Ordered (.group members))
    (path : List String) (value : String)
    (wordy : ∀ head number rest, path = head :: Decimal.natText number :: rest →
      head ≠ field ∧ head ≠ "") :
    NumbersBelow (membersAt field (insertAt path value members)) := by
  cases path with
  | nil => exact below
  | cons head rest =>
    by_cases here : field = segmentKey head members
    · cases rest with
      | nil =>
        rw [Posted.insertAt, membersAt_insert, if_pos here]
        exact fun _ used => absurd used List.not_mem_nil
      | cons segment others =>
        obtain ⟨posted, writes⟩ :=
          insertAt_writes segment others value (membersAt field members)
        rw [insertAt_cons (List.cons_ne_nil _ _), membersAt_insert, if_pos here, ← here, writes]
        refine below.insert (ordered.membersAt field).ascending ?_ posted
        rintro number rfl
        obtain ⟨elsewhere, filled⟩ := wordy head number others rfl
        rw [segmentKey_of_ne filled] at here
        exact elsewhere here.symm
    · rw [membersAt, get?_insertAt_of_ne here]
      exact below

end Posted

namespace Submission

open Posted (Ordered NumbersBelow segmentsAt nextSegment membersAt InLine getAt?)

/-! ## One more pair -/

/-- The tree of a request is in order. -/
theorem tree_ordered (pairs : List (String × String)) : Ordered (.group (tree pairs)) :=
  List.foldlRecOn (motive := fun members => Ordered (.group members)) pairs _
    (.group List.Pairwise.nil nofun) fun _ before pair _ => before.insertAt (path pair.1) pair.2

/-- Numbers in use stay below the number of values while no key spells a number out. -/
theorem tree_numbersBelow {field : String} {pairs : List (String × String)}
    (wordy : ∀ pair ∈ pairs, ∀ head number rest,
      path pair.1 = head :: Decimal.natText number :: rest → head ≠ field ∧ head ≠ "") :
    NumbersBelow (membersAt field (tree pairs)) := by
  induction pairs using List.reverseRecOn with
  | nil => exact nofun
  | append_singleton before pair inductionHypothesis =>
    obtain ⟨earlier, last⟩ := List.forall_mem_append.mp wordy
    rw [tree_append]
    exact (inductionHypothesis earlier).insertAt (tree_ordered before) (path pair.1) pair.2
      (last pair List.mem_cons_self)

/-- The rows that a field was posted for are its segments in the tree. -/
theorem rowIds_ofPairs (pairs : List (String × String)) (field : String) :
    (ofPairs pairs).rowIds field = segmentsAt field (tree pairs) := by
  rw [rowIds, get?_ofPairs List.mem_cons_self (List.cons_ne_nil _ _)]
  rfl

/-- Nothing is found under any other root. -/
theorem get?_ofPairs_unrooted {root : String} (other : root ∉ [pageRoot, databaseRoot])
    (rest : List String) (pairs : List (String × String)) :
    (ofPairs pairs).get? (root :: rest) = none := by
  have absent : (ofPairs pairs).roots.get? root = Entries.get? root [] := by
    rcases ofPairs_roots pairs with ⟨-, none⟩ | ⟨-, both⟩
    · rw [none]
    · obtain ⟨page, database⟩ := not_or.mp (mt List.mem_pair.mpr other)
      simp [both, alike, Entries.get?, page, database]
  rw [get?, Posted.getAt?_congr absent]
  exact Posted.getAt?_nil _

/-- A value of a request stands in its tree, under one of the roots. -/
theorem get?_ofPairs_text {pairs : List (String × String)} {path : List String} {text : String}
    (found : (ofPairs pairs).get? path = some (.text text)) :
    ∃ root ∈ [pageRoot, databaseRoot], ∃ rest ≠ [], path = root :: rest ∧
      getAt? rest (tree pairs) = some (.text text) := by
  cases path with
  | nil => cases found
  | cons root rest =>
    by_cases rooted : root ∈ [pageRoot, databaseRoot]
    · by_cases more : rest = []
      · rw [more, get?, getAt?] at found
        rcases ofPairs_roots pairs with ⟨-, none⟩ | ⟨-, both⟩
        · rw [none] at found
          cases found
        · rw [both] at found
          rcases List.mem_pair.mp rooted with rfl | rfl <;> cases found
      · rw [get?_ofPairs rooted more] at found
        exact ⟨root, rooted, rest, more, rfl, found⟩
    · rw [get?_ofPairs_unrooted rooted] at found
      cases found

/-- A key with empty brackets behind a field is filed under the field's next segment. -/
theorem tree_append_next {field : String} (named : field ≠ "") (plain : '[' ∉ field.toList)
    (pairs : List (String × String)) (value : String) :
    tree (pairs ++ [(field ++ "[]", value)]) =
      Posted.insertAt [field, nextSegment field (tree pairs)] value (tree pairs) := by
  have spelled : field ++ "[]" = field ++ "[" ++ "" ++ "]" := by
    simp [← String.toList_inj]
  have key : path (field ++ "[]") = [field, ""] := by
    rw [spelled]
    exact path_bracketed plain (by decide)
  rw [tree_append, ← Posted.insertAt_next named, ← key]
  rfl

/-- What stands aside of the filed paths under both roots is what it was. -/
theorem get?_ofPairs_aside {before after : List (String × String)} {filed path : List String}
    {value : String} (aside : ∀ root ∈ [pageRoot, databaseRoot], ¬ InLine path (root :: filed))
    (added : tree after = Posted.insertAt filed value (tree before)) (named : "" ∉ filed) :
    (ofPairs after).get? path = (ofPairs before).get? path := by
  cases path with
  | nil => rfl
  | cons root rest =>
    by_cases rooted : root ∈ [pageRoot, databaseRoot]
    · have apart : ¬ InLine rest filed := by
        simpa [InLine, List.cons_prefix_cons] using aside root rooted
      have more : rest ≠ [] := fun none => apart (.inl (none ▸ List.nil_prefix))
      rw [get?_ofPairs rooted more, get?_ofPairs rooted more, added]
      exact Posted.getAt?_insertAt_aside apart named value _
    · rw [get?_ofPairs_unrooted rooted, get?_ofPairs_unrooted rooted]

/-- Every value that was found is found still. -/
def Keeps (before after : Submission) : Prop :=
  ∀ path text, before.get? path = some (.text text) → after.get? path = some (.text text)

/-- What a key with empty brackets adds to a request whose field holds no value itself. The
value is filed under the number of values that the field has, and everything aside of it is
what it was. So nothing is lost, and the field gets one more value, if and only if this
number is not in use as a segment yet. It is not as long as no key spells a number out in
the brackets behind the field, or behind an empty head, which may stand for any field.

Proof: in the tree of the request the pair is filed under the field and the number. A value
that stood elsewhere stays; at the number or beyond it nothing stood if it was not in use.
If it was, members in order have one entry for each segment, so their number stays. -/
theorem append_loses_nothing_iff {pairs : List (String × String)} {field : String}
    (named : field ≠ "") (plain : '[' ∉ field.toList)
    (grouped : (ofPairs pairs).value? field = none) (value : String) :
    let before := ofPairs pairs
    let after := ofPairs (pairs ++ [(field ++ "[]", value)])
    let segment := Decimal.natText (before.rowIds field).length
    (∀ root ∈ [pageRoot, databaseRoot],
      after.get? [root, field, segment] = some (.text value)) ∧
    (∀ path, (∀ root ∈ [pageRoot, databaseRoot], ¬ InLine path [root, field, segment]) →
      after.get? path = before.get? path) ∧
    ((before.Keeps after ∧ (after.rowIds field).length = (before.rowIds field).length + 1) ↔
      segment ∉ before.rowIds field) ∧
    ((∀ pair ∈ pairs, ∀ head number rest,
        path pair.1 = head :: Decimal.natText number :: rest → head ≠ field ∧ head ≠ "") →
      segment ∉ before.rowIds field) := by
  dsimp only
  have filed := tree_append_next named plain pairs value
  have numbered : nextSegment field (tree pairs) ≠ "" := Decimal.natText_ne_empty _
  have filled : [field, nextSegment field (tree pairs)] ≠ [] := List.cons_ne_nil _ _
  have inside : "" ∉ [field, nextSegment field (tree pairs)] := by
    simp [Ne.symm named, Ne.symm numbered]
  have valueless : ∀ text, (tree pairs).get? field ≠ some (.text text) := by
    intro text found
    rw [value?, get?_ofPairs List.mem_cons_self (List.cons_ne_nil _ _), getAt?, found] at grouped
    cases grouped
  have longer := Posted.length_segmentsAt_insertAt named numbered (tree_ordered pairs) value
  rw [rowIds_ofPairs, rowIds_ofPairs, filed, longer, ← nextSegment]
  refine ⟨?_, ?_, ⟨?_, ?_⟩, fun wordy => ?_⟩
  · intro root rooted
    rw [get?_ofPairs rooted filled, filed]
    exact Posted.getAt?_insertAt_self filled inside value _
  · intro path aside
    exact get?_ofPairs_aside aside filed inside
  · rintro ⟨-, more⟩ used
    rw [if_pos used] at more
    omega
  · intro unused
    refine ⟨?_, by rw [if_neg unused]⟩
    intro path text found
    obtain ⟨root, rooted, rest, more, rfl, there⟩ := get?_ofPairs_text found
    rw [get?_ofPairs rooted more, filed]
    exact Posted.insertAt_unused_keeps named numbered valueless unused value there
  · rw [Posted.nextSegment_eq]
    exact (tree_numbersBelow wordy).next

/-- Two tags behind a word: the third is filed under the number two, and nothing is lost. -/
theorem tags_append_loses_nothing :
    (ofPairs [("tags[]", "a"), ("tags[main]", "b")]).Keeps
        (ofPairs [("tags[]", "a"), ("tags[main]", "b"), ("tags[]", "c")]) ∧
      (ofPairs [("tags[]", "a"), ("tags[main]", "b"), ("tags[]", "c")]).get?
        ["HTML", "tags", "2"] = some (.text "c") := by
  have grouped : (ofPairs [("tags[]", "a"), ("tags[main]", "b")]).value? "tags" = none := rfl
  obtain ⟨there, -, lossless, -⟩ :=
    append_loses_nothing_iff (by decide) (by decide) grouped "c"
  exact ⟨(lossless.mpr (by decide)).1, there "HTML" (by decide)⟩

/-- A number that a key spelled out is filed over: the tag under the number one is lost to
the next, and the field has one value as before. -/
theorem spelled_number_lost :
    (ofPairs [("tags[1]", "a")]).get? ["HTML", "tags", "1"] = some (.text "a") ∧
      (ofPairs [("tags[1]", "a"), ("tags[]", "b")]).get? ["HTML", "tags", "1"] =
        some (.text "b") ∧
      (ofPairs [("tags[1]", "a"), ("tags[]", "b")]).rowIds "tags" = ["1"] :=
  ⟨rfl, rfl, rfl⟩

end Submission

end Formwork
