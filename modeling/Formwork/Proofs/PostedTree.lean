import Formwork.Proofs.BracketKeys
import Formwork.Proofs.MapLookup
import Mathlib.Data.List.Basic
import Mathlib.Data.List.Induction

/-!
# What is found where it was posted

Posted data is a tree of groups, and a value is filed under a path. Afterwards the value
stands at its path, a group stands at every part of the path that leads there, nothing
stands beyond, and whatever stands aside of the path is what it was, also where a value had
to make way for a group. The order of members plays no part in this.

The pairs of one request are filed under two roots alike, so both roots hold the same tree.
In it every value is found that is the last one posted under its key, unless some later key
leads through it or stands on the way to it.
-/

namespace Formwork

namespace Posted

/-! ## One step down -/

/-- The members of what stands under a segment. Nothing has no members. -/
def membersAt (segment : String) (members : Entries Posted) : Entries Posted :=
  ((members.get? segment).map Posted.members).getD []

/-- A segment that is not empty is filed under itself. -/
theorem segmentKey_of_ne {segment : String} (named : segment ≠ "") (members : Entries Posted) :
    segmentKey segment members = segment :=
  if_neg named

/-- Writing changes the members under the written segment and under no other. -/
theorem membersAt_insert (key : String) (posted : Posted) (members : Entries Posted)
    (segment : String) : membersAt segment (members.insert key posted) =
      if segment = key then posted.members else membersAt segment members := by
  unfold membersAt
  rw [Entries.get?_insert]
  split <;> rfl

/-- Nothing stands anywhere in a group without members. -/
theorem getAt?_nil (path : List String) : getAt? path [] = none := by
  cases path with
  | nil => rfl
  | cons segment rest => cases rest <;> rfl

/-- A longer path is followed among the members under its first segment. -/
theorem getAt?_cons {rest : List String} (more : rest ≠ []) (segment : String)
    (members : Entries Posted) :
    getAt? (segment :: rest) members = getAt? rest (membersAt segment members) := by
  cases rest with
  | nil => contradiction
  | cons next others =>
    rw [getAt?, membersAt]
    cases members.get? segment with
    | none => exact (getAt?_nil _).symm
    | some posted =>
      cases posted with
      | text value => exact (getAt?_nil _).symm
      | group inner => rfl
    · exact nofun

/-- What stands at a path depends on what stands under its first segment. -/
theorem getAt?_congr {segment : String} {left right : Entries Posted}
    (same : left.get? segment = right.get? segment) (rest : List String) :
    getAt? (segment :: rest) left = getAt? (segment :: rest) right := by
  by_cases more : rest = []
  · rw [more]
    exact same
  · rw [getAt?_cons more, getAt?_cons more, membersAt, membersAt, same]

/-- Under a longer path a value is filed among the members under its first segment. -/
theorem insertAt_cons {rest : List String} (more : rest ≠ []) (segment value : String)
    (members : Entries Posted) :
    insertAt (segment :: rest) value members =
      members.insert (segmentKey segment members)
        (.group (insertAt rest value (membersAt (segmentKey segment members) members))) := by
  cases rest with
  | nil => contradiction
  | cons next others => rfl

/-- Filing leaves alone what stands under another first segment. -/
theorem get?_insertAt_of_ne {segment other : String} {members : Entries Posted}
    (apart : other ≠ segmentKey segment members) (rest : List String) (value : String) :
    (insertAt (segment :: rest) value members).get? other = members.get? other := by
  by_cases more : rest = []
  · rw [more, insertAt, Entries.get?_insert, if_neg apart]
  · rw [insertAt_cons more, Entries.get?_insert, if_neg apart]

/-! ## Along the path and aside of it -/

/-- One of two paths leads on to the other, or they are the same. -/
def InLine (left right : List String) : Prop := left <+: right ∨ right <+: left

instance : DecidableRel InLine := fun _ _ => inferInstanceAs (Decidable (_ ∨ _))

/-- What stands at a path in two parts is found among the members of what stands at the
first. -/
theorem getAt?_append {front rest : List String} (some_ : front ≠ []) (more : rest ≠ [])
    (members : Entries Posted) :
    getAt? (front ++ rest) members =
      getAt? rest (((getAt? front members).map Posted.members).getD []) := by
  induction front generalizing members with
  | nil => contradiction
  | cons segment others inductionHypothesis =>
    rw [List.cons_append, getAt?_cons (by simp [more])]
    by_cases last : others = []
    · rw [last]
      rfl
    · rw [inductionHypothesis last, getAt?_cons last]

/-- A filed value stands at its path. -/
theorem getAt?_insertAt_self {path : List String} (some_ : path ≠ []) (named : "" ∉ path)
    (value : String) (members : Entries Posted) :
    getAt? path (insertAt path value members) = some (.text value) := by
  induction path generalizing members with
  | nil => contradiction
  | cons segment rest inductionHypothesis =>
    obtain ⟨first, others⟩ := not_or.mp (mt List.mem_cons.mpr named)
    have key := segmentKey_of_ne (Ne.symm first) members
    by_cases more : rest = []
    · rw [more, insertAt, getAt?, key, Entries.get?_insert, if_pos rfl]
    · rw [insertAt_cons more, getAt?_cons more, membersAt_insert, key, if_pos rfl]
      exact inductionHypothesis more others _

/-- At a first part of the path stands a group, and the value is filed in it under the
rest. -/
theorem getAt?_insertAt_front {front rest : List String} (some_ : front ≠ []) (more : rest ≠ [])
    (named : "" ∉ front) (value : String) (members : Entries Posted) :
    ∃ inner, getAt? front (insertAt (front ++ rest) value members) =
      some (.group (insertAt rest value inner)) := by
  induction front generalizing members with
  | nil => contradiction
  | cons segment others inductionHypothesis =>
    obtain ⟨first, later⟩ := not_or.mp (mt List.mem_cons.mpr named)
    have key := segmentKey_of_ne (Ne.symm first) members
    rw [List.cons_append, insertAt_cons (by simp [more]), key]
    by_cases last : others = []
    · rw [last, getAt?, Entries.get?_insert, if_pos rfl]
      exact ⟨_, rfl⟩
    · rw [getAt?_cons last, membersAt_insert, if_pos rfl]
      exact inductionHypothesis last later _

/-- Nothing stands beyond a filed value. -/
theorem getAt?_insertAt_beyond {path rest : List String} (some_ : path ≠ []) (more : rest ≠ [])
    (named : "" ∉ path) (value : String) (members : Entries Posted) :
    getAt? (path ++ rest) (insertAt path value members) = none := by
  rw [getAt?_append some_ more, getAt?_insertAt_self some_ named]
  exact getAt?_nil rest

/-- What stands aside of the path is what it was.

Proof: induction on the path. Where the first segments differ, filing writes under another
one; where they agree, both paths go on, and what stood there counts as a group either way:
a value has no members, as has the group that replaces it. -/
theorem getAt?_insertAt_aside {path other : List String} (aside : ¬ InLine other path)
    (named : "" ∉ path) (value : String) (members : Entries Posted) :
    getAt? other (insertAt path value members) = getAt? other members := by
  induction path generalizing other members with
  | nil => exact absurd (.inr List.nil_prefix) aside
  | cons segment rest inductionHypothesis =>
    obtain ⟨first, others⟩ := not_or.mp (mt List.mem_cons.mpr named)
    have key := segmentKey_of_ne (Ne.symm first) members
    cases other with
    | nil => exact absurd (.inl List.nil_prefix) aside
    | cons asked further =>
      by_cases same : asked = segment
      · subst same
        have apart : ¬ InLine further rest := by
          simpa [InLine, List.cons_prefix_cons] using aside
        have more : rest ≠ [] := fun none => apart (.inr (none ▸ List.nil_prefix))
        have beyond : further ≠ [] := fun none => apart (.inl (none ▸ List.nil_prefix))
        rw [insertAt_cons more, key, getAt?_cons beyond, getAt?_cons beyond, membersAt_insert,
          if_pos rfl]
        exact inductionHypothesis apart others _
      · exact getAt?_congr (get?_insertAt_of_ne (by rwa [key]) rest value) further

end Posted

namespace Submission

open Posted (InLine insertAt getAt?)

/-! ## The tree of a request -/

/-- The tree that pairs are filed in. -/
def tree (pairs : List (String × String)) : Entries Posted :=
  pairs.foldl (fun members (key, value) => insertAt (path key) value members) []

/-- One more pair is filed in the tree of those before. -/
theorem tree_append (before after : List (String × String)) :
    tree (before ++ after) =
      after.foldl (fun members (key, value) => insertAt (path key) value members)
        (tree before) :=
  List.foldl_append

/-- The roots with one tree under each; none before anything is filed. -/
def alike (members : Entries Posted) : Entries Posted :=
  [(pageRoot, .group members), (databaseRoot, .group members)]

/-- A pair is filed in the same tree under both roots. -/
theorem file_roots {submission : Submission} {members : Entries Posted}
    (filed : submission.roots = [] ∧ members = [] ∨ submission.roots = alike members)
    (key value : String) :
    (submission.file key value).roots = alike (insertAt (path key) value members) := by
  have below (root : String) (named : root ≠ "") (roots : Entries Posted) :
      insertAt (root :: path key) value roots =
        roots.insert root (.group (insertAt (path key) value (Posted.membersAt root roots))) := by
    rw [Posted.insertAt_cons (path_ne_nil key), Posted.segmentKey_of_ne named]
  have found : Posted.membersAt databaseRoot submission.roots = members ∧
      Posted.membersAt pageRoot submission.roots = members := by
    rcases filed with ⟨none, rfl⟩ | both
    · rw [none]
      exact ⟨rfl, rfl⟩
    · rw [both]
      exact ⟨rfl, rfl⟩
  have apart : pageRoot ≠ databaseRoot := by decide
  unfold file insert
  dsimp only
  rw [below databaseRoot (by decide), below pageRoot (by decide), Posted.membersAt_insert,
    if_neg apart, found.1, found.2]
  rcases filed with ⟨none, -⟩ | both
  · rw [none]
    rfl
  · rw [both]
    rfl

/-- The roots of a request hold its tree, or nothing if nothing was posted. -/
theorem ofPairs_roots (pairs : List (String × String)) :
    pairs = [] ∧ (ofPairs pairs).roots = [] ∨
      pairs ≠ [] ∧ (ofPairs pairs).roots = alike (tree pairs) := by
  induction pairs using List.reverseRecOn with
  | nil => exact .inl ⟨rfl, rfl⟩
  | append_singleton before pair inductionHypothesis =>
    obtain ⟨key, value⟩ := pair
    have filed : (ofPairs (before ++ [(key, value)])) = (ofPairs before).file key value :=
      List.foldl_append
    refine .inr ⟨by simp, ?_⟩
    rw [filed, tree_append]
    refine file_roots ?_ key value
    rcases inductionHypothesis with ⟨rfl, none⟩ | ⟨-, both⟩
    · exact .inl ⟨none, rfl⟩
    · exact .inr both

/-- What is found under either root is what the tree holds. -/
theorem get?_ofPairs {root : String} (rooted : root ∈ [pageRoot, databaseRoot])
    {path : List String} (some_ : path ≠ []) (pairs : List (String × String)) :
    (ofPairs pairs).get? (root :: path) = getAt? path (tree pairs) := by
  rw [get?, Posted.getAt?_cons some_]
  rcases ofPairs_roots pairs with ⟨rfl, none⟩ | ⟨-, both⟩
  · rw [none]
    rfl
  · have found : Posted.membersAt root (alike (tree pairs)) = tree pairs := by
      rcases List.mem_pair.mp rooted with rfl | rfl <;> rfl
    rw [both, found]

/-! ## Cells of a request -/

/-- Only the path itself is in line with a path of as many segments. -/
theorem inLine_iff_of_length {left right : List String} (same : left.length = right.length) :
    InLine left right ↔ left = right := by
  constructor
  · rintro (inside | outside)
    · exact inside.eq_of_length same
    · exact (outside.eq_of_length same.symm).symm
  · rintro rfl
    exact .inl (List.prefix_refl left)

/-- A value that is posted for a field in a row is the value of this field in this row, and of no
other cell. -/
theorem rowValue?_file {name rowId : String} (plain : '[' ∉ name.toList)
    (closed : ']' ∉ rowId.toList) (named : name ≠ "") (given : rowId ≠ "") (value : String)
    (submission : Submission) (other otherId : String) :
    (submission.file (name ++ "[" ++ rowId ++ "]") value).rowValue? other otherId =
      if other = name ∧ otherId = rowId then some value
      else submission.rowValue? other otherId := by
  have filled (root : String) (given' : root ≠ "") : "" ∉ [root, name, rowId] := by
    simp [Ne.symm given', Ne.symm named, Ne.symm given]
  have apart {root : String} (differ : [pageRoot, other, otherId] ≠ [root, name, rowId]) :
      ¬ InLine [pageRoot, other, otherId] [root, name, rowId] :=
    fun inLine => differ ((inLine_iff_of_length (by simp)).mp inLine)
  unfold file insert rowValue? get?
  rw [path_bracketed plain closed]
  dsimp only
  split
  · rename_i same
    obtain ⟨rfl, rfl⟩ := same
    rw [Posted.getAt?_insertAt_self (by simp) (filled pageRoot (by decide))]
    rfl
  · rename_i differ
    rw [Posted.getAt?_insertAt_aside (apart (by simpa using differ)) (filled pageRoot (by decide)),
      Posted.getAt?_insertAt_aside (apart (by simp [pageRoot, databaseRoot]))
        (filled databaseRoot (by decide))]

/-! ## Values of a request -/

/-- Pairs that are posted later leave alone what stands aside of all their paths. -/
theorem getAt?_filed_aside {asked : List String} (after : List (String × String))
    (aside : ∀ later ∈ after, ¬ InLine asked (path later.1) ∧ "" ∉ path later.1)
    (members : Entries Posted) :
    getAt? asked (after.foldl (fun members (key, value) => insertAt (path key) value members)
      members) = getAt? asked members := by
  induction after generalizing members with
  | nil => rfl
  | cons pair rest inductionHypothesis =>
    obtain ⟨⟨apart, named⟩, others⟩ := List.forall_mem_cons.mp aside
    rw [List.foldl_cons, inductionHypothesis others, Posted.getAt?_insertAt_aside apart named]

/-- Every value is found where it was posted. Filing a value under a path without empty
segments puts it there, with groups on the way, nothing beyond, and all else as it was.
In the data of a request whose keys have no empty segments, the value of the last pair with
a key is found under both roots, unless a later pair was posted on the way to it or beyond.

Proof: the four look-ups are laws of the tree. Under the roots of a request stands one and
the same tree; after its pair was filed the value is in it, and the later ones are filed
aside, since only an equal key has an equal path. -/
theorem values_found_where_posted :
    (∀ (submission : Submission) (path : List String) (value : String),
      path ≠ [] → "" ∉ path →
        (submission.insert path value).get? path = some (.text value) ∧
        (∀ front, front ≠ [] → front <+: path → front ≠ path →
          ∃ members, (submission.insert path value).get? front = some (.group members)) ∧
        (∀ beyond, path <+: beyond → beyond ≠ path →
          (submission.insert path value).get? beyond = none) ∧
        ∀ other, ¬ InLine other path →
          (submission.insert path value).get? other = submission.get? other) ∧
    ∀ (before after : List (String × String)) (key value : String),
      (∀ pair ∈ before ++ (key, value) :: after, "" ∉ path pair.1) →
      (∀ later ∈ after, later.1 ≠ key) →
      (∀ later ∈ after, path later.1 ≠ path key → ¬ InLine (path key) (path later.1)) →
      ∀ root ∈ [pageRoot, databaseRoot],
        (ofPairs (before ++ (key, value) :: after)).get? (root :: path key) =
          some (.text value) := by
  constructor
  · intro submission path value some_ named
    refine ⟨Posted.getAt?_insertAt_self some_ named value _, ?_, ?_, ?_⟩
    · rintro front filled ⟨rest, rfl⟩ proper
      have more : rest ≠ [] := fun none => proper (by simp [none])
      have first : "" ∉ front := fun member => named (List.mem_append_left _ member)
      obtain ⟨inner, found⟩ := Posted.getAt?_insertAt_front filled more first value submission.roots
      exact ⟨_, found⟩
    · rintro beyond ⟨rest, rfl⟩ proper
      have more : rest ≠ [] := fun none => proper (by simp [none])
      exact Posted.getAt?_insertAt_beyond some_ more named value _
    · intro other aside
      exact Posted.getAt?_insertAt_aside aside named value _
  · intro before after key value named last clear root rooted
    have filled := path_ne_nil key
    have named' : "" ∉ path key := named (key, value) (by simp)
    have aside : ∀ later ∈ after, ¬ InLine (path key) (path later.1) ∧ "" ∉ path later.1 := by
      intro later member
      have apart : path later.1 ≠ path key := fun same => last later member (path_injective same)
      exact ⟨clear later member apart, named later (by simp [member])⟩
    rw [get?_ofPairs rooted filled, tree_append, List.foldl_cons, getAt?_filed_aside after aside]
    exact Posted.getAt?_insertAt_self filled named' value _

/-- A rank makes way for the ranks of rows, and of two titles the later one is found. -/
theorem ranks_found_where_posted :
    (((ofPairs [("rank", "1")]).insert ["HTML", "rank", "r1"] "2").get? ["HTML", "rank", "r1"] =
        some (.text "2") ∧
      ∃ members, ((ofPairs [("rank", "1")]).insert ["HTML", "rank", "r1"] "2").get?
        ["HTML", "rank"] = some (.group members)) ∧
    (ofPairs [("title", "Ms"), ("rank[r1]", "2"), ("title", "Dr"), ("rank[r2]", "3")]).get?
      ["HTML", "title"] = some (.text "Dr") := by
  obtain ⟨filing, posting⟩ := values_found_where_posted
  obtain ⟨there, fronts, -⟩ :=
    filing (ofPairs [("rank", "1")]) ["HTML", "rank", "r1"] "2" (by decide) (by decide)
  refine ⟨⟨there, fronts ["HTML", "rank"] (by decide) (by decide) (by decide)⟩, ?_⟩
  exact posting [("title", "Ms"), ("rank[r1]", "2")] [("rank[r2]", "3")] "title" "Dr" (by decide)
    (by decide) (by decide) "HTML" (by decide)

end Submission

end Formwork
