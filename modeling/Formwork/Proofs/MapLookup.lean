import Formwork.TextMap

/-!
# Looking up what was written

A map is observed through its look-up. Writing changes the value under one key,
leaving out removes it, and every other key keeps what it had. Keys ascend, so a
map is also determined by its entries in order: collecting the entries of a map
again gives the same map. This is what lets a map survive being written out.
-/

namespace Formwork

universe u
variable {α : Type u}

namespace Entries

/-- Writing is seen under the written key and nowhere else. The order of the
entries plays no part. -/
theorem get?_insert (key : String) (value : α) (entries : Entries α) (other : String) :
    (entries.insert key value).get? other =
      if other = key then some value else entries.get? other := by
  induction entries with
  | nil => simp [insert, get?]
  | cons head rest inductionHypothesis =>
    obtain ⟨name, stored⟩ := head
    simp only [insert]
    split
    · simp [get?]
    · split
      · rename_i same
        subst same
        by_cases asked : other = key <;> simp [get?, asked]
      · rename_i different
        simp only [get?, inductionHypothesis]
        by_cases asked : other = name
        · have apart : other ≠ key := fun same => different (same.symm.trans asked)
          simp [asked, asked ▸ apart]
        · simp [asked]

/-- Leaving out a key is seen under that key and nowhere else. -/
theorem get?_erase (key : String) (entries : Entries α) (other : String) :
    (entries.erase key).get? other = if other = key then none else entries.get? other := by
  induction entries with
  | nil => simp [erase, get?]
  | cons head rest inductionHypothesis =>
    obtain ⟨name, stored⟩ := head
    have shorter : (erase key rest).get? other =
        if other = key then none else get? other rest := inductionHypothesis
    by_cases left : name = key
    · have skipped : erase key ((name, stored) :: rest) = erase key rest := by
        simp [erase, left]
      rw [skipped, shorter]
      by_cases asked : other = key
      · simp [asked]
      · simp [asked, get?, left]
    · have kept : erase key ((name, stored) :: rest) = (name, stored) :: erase key rest := by
        simp [erase, left]
      rw [kept, get?, shorter, get?]
      by_cases asked : other = name
      · simp [asked, left]
      · simp [asked]

/-- An entry whose key is kept is found as before. -/
theorem get?_filter {names : List String} {name : String} (known : name ∈ names)
    (entries : Entries α) :
    get? name (entries.filter fun entry => names.contains entry.1) = get? name entries := by
  induction entries with
  | nil => rfl
  | cons entry rest inductionHypothesis =>
    obtain ⟨key, value⟩ := entry
    rw [List.filter_cons, get?]
    by_cases same : name = key
    · subst same
      rw [if_pos (by simpa using known), get?, if_pos rfl, if_pos rfl]
    · rw [if_neg same, ← inductionHypothesis]
      split
      · rw [get?, if_neg same]
      · rfl

/-- What is found under a key is an entry with that key. -/
theorem mem_of_get? {entries : Entries α} {key : String} {value : α}
    (found : entries.get? key = some value) : (key, value) ∈ entries := by
  induction entries with
  | nil => simp [get?] at found
  | cons head rest inductionHypothesis =>
    obtain ⟨name, stored⟩ := head
    by_cases asked : key = name
    · have same : stored = value := by simpa [get?, asked] using found
      simp [asked, same]
    · have later : get? key rest = some value := by simpa [get?, asked] using found
      exact List.mem_cons_of_mem _ (inductionHypothesis later)

/-- In ascending entries every entry is found under its key, because no later
entry repeats the key. -/
theorem Ascending.get?_of_mem {entries : Entries α} (ascending : Ascending entries)
    {key : String} {value : α} (member : (key, value) ∈ entries) :
    entries.get? key = some value := by
  induction entries with
  | nil => cases member
  | cons head rest inductionHypothesis =>
    obtain ⟨name, stored⟩ := head
    obtain ⟨above, ordered⟩ := List.pairwise_cons.mp ascending
    rcases List.mem_cons.mp member with same | later
    · obtain ⟨rfl, rfl⟩ := Prod.mk.inj same
      simp [get?]
    · have apart : key ≠ name := by
        rintro rfl
        exact String.lt_irrefl key (above (key, value) later)
      simpa [get?, apart] using inductionHypothesis ordered later

/-- A key above all others is written at the end. -/
theorem insert_above {entries : Entries α} {key : String} (value : α)
    (above : ∀ entry ∈ entries, entry.1 < key) :
    entries.insert key value = entries ++ [(key, value)] := by
  induction entries with
  | nil => rfl
  | cons head rest inductionHypothesis =>
    obtain ⟨name, stored⟩ := head
    have below : name < key := above (name, stored) List.mem_cons_self
    have apart : key ≠ name := by
      rintro rfl
      exact String.lt_irrefl key below
    have later : insert key value rest = rest ++ [(key, value)] :=
      inductionHypothesis fun entry member => above entry (List.mem_cons_of_mem _ member)
    simp [insert, String.lt_asymm below, apart, later]

/-- A key is found if and only if some entry has it. -/
theorem get?_isSome_iff (entries : Entries α) (key : String) :
    (entries.get? key).isSome = true ↔ key ∈ entries.map Prod.fst := by
  induction entries with
  | nil => simp [get?]
  | cons head rest inductionHypothesis =>
    obtain ⟨name, value⟩ := head
    rw [get?, List.map_cons, List.mem_cons]
    by_cases asked : key = name
    · simp [asked]
    · simp [asked, inductionHypothesis]

/-- The keys after writing are the written one and those before. -/
theorem mem_keys_insert (key : String) (value : α) (entries : Entries α) (other : String) :
    other ∈ (entries.insert key value).map Prod.fst ↔
      other = key ∨ other ∈ entries.map Prod.fst := by
  rw [← get?_isSome_iff, ← get?_isSome_iff, get?_insert]
  split <;> simp [*]

/-- Writing adds one entry, unless the key has one already. -/
theorem length_insert {entries : Entries α} (ascending : Ascending entries)
    (key : String) (value : α) : (entries.insert key value).length =
      entries.length + if key ∈ entries.map Prod.fst then 0 else 1 := by
  induction entries with
  | nil => simp [insert]
  | cons head rest inductionHypothesis =>
    obtain ⟨name, stored⟩ := head
    obtain ⟨above, ordered⟩ := List.pairwise_cons.mp ascending
    rw [insert]
    split
    · rename_i below
      have apart : key ∉ ((name, stored) :: rest).map Prod.fst := by
        intro member
        rcases List.mem_cons.mp member with rfl | later
        · exact String.lt_irrefl key below
        · obtain ⟨entry, inside, rfl⟩ := List.mem_map.mp later
          exact String.lt_asymm below (above entry inside)
      rw [if_neg apart, List.length_cons]
    · split
      · rename_i same
        rw [if_pos (by simp [same])]
        rfl
      · rename_i apart
        have others : key ∈ ((name, stored) :: rest).map Prod.fst ↔ key ∈ rest.map Prod.fst := by
          simp [apart]
        rw [List.length_cons, inductionHypothesis ordered, List.length_cons]
        simp only [others]
        omega

end Entries

namespace TextMap

/-- Writing is seen under the written key and nowhere else. -/
theorem get?_insert (map : TextMap α) (key : String) (value : α) (other : String) :
    (map.insert key value).get? other = if other = key then some value else map.get? other :=
  Entries.get?_insert key value map.entries other

/-- What was written is found. -/
@[simp] theorem get?_insert_self (map : TextMap α) (key : String) (value : α) :
    (map.insert key value).get? key = some value := by
  simp [get?_insert]

/-- Leaving out a key is seen under that key and nowhere else. -/
theorem get?_erase (map : TextMap α) (key other : String) :
    (map.erase key).get? other = if other = key then none else map.get? other :=
  Entries.get?_erase key map.entries other

/-- What is found under a key is an entry with that key, and each entry is found. -/
theorem get?_eq_some_iff (map : TextMap α) (key : String) (value : α) :
    map.get? key = some value ↔ (key, value) ∈ map.entries :=
  ⟨Entries.mem_of_get?, map.ascending.get?_of_mem⟩

/-- Keeping some values keeps them under their keys. Keys occur once, so no
entry that was dropped can uncover another one of its key. -/
theorem get?_filterValues (map : TextMap α) (keep : α → Bool) (key : String) :
    (map.filterValues keep).get? key = (map.get? key).filter keep := by
  apply Option.ext
  intro value
  rw [get?_eq_some_iff, Option.filter_eq_some_iff, get?_eq_some_iff]
  exact List.mem_filter

/-- Changing the value under one key leaves all other keys alone. -/
theorem get?_modify (map : TextMap α) (key : String) (change : α → α) (other : String) :
    (map.modify key change).get? other =
      if other = key then (map.get? key).map change else map.get? other := by
  unfold modify
  cases found : map.get? key with
  | none =>
    by_cases asked : other = key
    · simp [asked, found]
    · simp [asked]
  | some value => simp [get?_insert]

/-- Entries are written one after another, the first one first. -/
theorem insertAll_cons (map : TextMap α) (key : String) (value : α) (rest : Entries α) :
    map.insertAll ((key, value) :: rest) = (map.insert key value).insertAll rest := rfl

/-- Entries are written in order. -/
theorem insertAll_append (map : TextMap α) (first later : Entries α) :
    map.insertAll (first ++ later) = (map.insertAll first).insertAll later :=
  List.foldl_append

/-- A key has a value after entries were written if it had one before, or if one of
the entries is for it. -/
theorem contains_insertAll (map : TextMap α) (entries : Entries α) (key : String) :
    (map.insertAll entries).contains key = true ↔
      map.contains key = true ∨ key ∈ entries.map Prod.fst := by
  induction entries generalizing map with
  | nil => simp [insertAll]
  | cons entry rest inductionHypothesis =>
    obtain ⟨name, value⟩ := entry
    rw [insertAll_cons, inductionHypothesis, contains, contains, get?_insert, List.map_cons,
      List.mem_cons]
    by_cases same : key = name
    · simp [same]
    · simp [same]

/-- A key that none of the written entries has keeps its value. -/
theorem get?_insertAll_of_absent (map : TextMap α) (entries : Entries α) (key : String)
    (absent : ∀ entry ∈ entries, entry.1 ≠ key) :
    (map.insertAll entries).get? key = map.get? key := by
  induction entries generalizing map with
  | nil => rfl
  | cons head rest inductionHypothesis =>
    obtain ⟨name, value⟩ := head
    have apart : key ≠ name := fun same => absent (name, value) List.mem_cons_self same.symm
    rw [insertAll_cons, inductionHypothesis _ fun entry member =>
      absent entry (List.mem_cons_of_mem _ member), get?_insert, if_neg apart]

/-- Of written entries with pairwise distinct keys each is found. -/
theorem get?_insertAll_of_mem (map : TextMap α) (entries : Entries α)
    (distinct : (entries.map Prod.fst).Nodup) {key : String} {value : α}
    (member : (key, value) ∈ entries) : (map.insertAll entries).get? key = some value := by
  induction entries generalizing map with
  | nil => cases member
  | cons head rest inductionHypothesis =>
    obtain ⟨name, stored⟩ := head
    obtain ⟨fresh, others⟩ := List.nodup_cons.mp distinct
    rw [insertAll_cons]
    rcases List.mem_cons.mp member with same | later
    · obtain ⟨rfl, rfl⟩ := Prod.mk.inj same
      have absent : ∀ entry ∈ rest, entry.1 ≠ key := by
        intro entry inside equal
        exact fresh (List.mem_map.mpr ⟨entry, inside, equal⟩)
      rw [get?_insertAll_of_absent _ rest key absent, get?_insert_self]
    · exact inductionHypothesis _ others later

/-- The value written last under a key counts, else the one that was there. -/
theorem get?_insertAll_or (map : TextMap α) (entries : Entries α) (key : String) :
    (map.insertAll entries).get? key = ((ofList entries).get? key).or (map.get? key) := by
  induction entries generalizing map with
  | nil => rfl
  | cons entry rest inductionHypothesis =>
    obtain ⟨name, value⟩ := entry
    have first : ofList ((name, value) :: rest) = (empty.insert name value).insertAll rest := rfl
    rw [insertAll_cons, first, inductionHypothesis, inductionHypothesis (empty.insert name value),
      get?_insert, get?_insert]
    by_cases same : key = name
    · rw [if_pos same, if_pos same, Option.or_assoc, Option.some_or]
    · rw [if_neg same, if_neg same, Option.or_assoc]
      rfl

/-- No key of a map occurs twice. -/
theorem keys_nodup (map : TextMap α) : (map.entries.map Prod.fst).Nodup := by
  apply List.pairwise_map.mpr
  refine map.ascending.imp ?_
  intro left right below same
  rw [same] at below
  exact String.lt_irrefl _ below

/-- Ascending entries written behind lower ones stay in place. -/
theorem insertAll_ascending (map : TextMap α) (entries : Entries α)
    (ascending : (map.entries ++ entries).Pairwise fun left right => left.1 < right.1) :
    (map.insertAll entries).entries = map.entries ++ entries := by
  induction entries generalizing map with
  | nil => simp [insertAll]
  | cons head rest inductionHypothesis =>
    obtain ⟨key, value⟩ := head
    have above : ∀ entry ∈ map.entries, entry.1 < key := fun entry member =>
      (List.pairwise_append.mp ascending).2.2 entry member (key, value) List.mem_cons_self
    have placed : (map.insert key value).entries = map.entries ++ [(key, value)] :=
      Entries.insert_above value above
    rw [insertAll_cons, inductionHypothesis, placed, List.append_assoc]
    · rfl
    · rw [placed, List.append_assoc]
      exact ascending

/-- Collecting the entries of a map gives the map. -/
theorem ofList_entries (map : TextMap α) : ofList map.entries = map :=
  eq_of_entries (insertAll_ascending empty map.entries map.ascending)

end TextMap

/-! ## Values written last -/

/-- The value written last under a name. -/
def lastValue? (name : String) (values : List (String × String)) : Option String :=
  ((values.filter fun named => named.1 = name).getLast?).map Prod.snd

/-- A first value counts if no later one is written under its name. -/
theorem lastValue?_cons (name : String) (named : String × String)
    (rest : List (String × String)) :
    lastValue? name (named :: rest) =
      if named.1 = name then some ((lastValue? name rest).getD named.2)
      else lastValue? name rest := by
  unfold lastValue?
  by_cases same : named.1 = name
  · rw [List.filter_cons_of_pos (by simpa using same), List.getLast?_cons, if_pos same]
    cases (rest.filter fun named => named.1 = name).getLast? <;> rfl
  · rw [List.filter_cons_of_neg (by simpa using same), if_neg same]

/-- No value was written under a name that none is for. -/
theorem lastValue?_absent {name : String} {values : List (String × String)}
    (absent : ∀ named ∈ values, named.1 ≠ name) : lastValue? name values = none := by
  have none : (values.filter fun named => named.1 = name) = [] := by
    simpa [List.filter_eq_nil_iff] using absent
  rw [lastValue?, none]
  rfl

/-- Some value was written last under a name that one is for. -/
theorem lastValue?_of_mem {name : String} {values : List (String × String)}
    (member : name ∈ values.map Prod.fst) : ∃ value, lastValue? name values = some value := by
  obtain ⟨named, there, rfl⟩ := List.mem_map.mp member
  have some_ : (values.filter fun other => other.1 = named.1) ≠ [] :=
    List.ne_nil_of_mem (List.mem_filter.mpr ⟨there, by simp⟩)
  exact ⟨_, congrArg (Option.map Prod.snd) (List.getLast?_eq_some_getLast some_)⟩

/-- After entries were written, a key has the value written for it last, or else the one it had. -/
theorem TextMap.get?_insertAll (map : TextMap String) (entries : Entries String) (key : String) :
    (map.insertAll entries).get? key = (lastValue? key entries).or (map.get? key) := by
  induction entries generalizing map with
  | nil => rfl
  | cons entry rest inductionHypothesis =>
    obtain ⟨name, value⟩ := entry
    rw [insertAll_cons, inductionHypothesis, get?_insert, lastValue?_cons]
    by_cases same : name = key
    · rw [if_pos same.symm, if_pos same]
      cases lastValue? key rest <;> rfl
    · rw [if_neg (Ne.symm same), if_neg same]

end Formwork
