import Mathlib.Data.List.Basic
import Formwork.Form.Basic
import Formwork.Proofs.SpelledTexts

/-!
# One spelling for a name

Forms are known under their trimmed names in lower case. Such a name is its own
spelling: no character of it has another lower case, since every code point that has one
moves to a code point that has none, and its ends are not blank, since nothing becomes
blank by being put into lower case.
-/

namespace Formwork

namespace Text

/-! ## Characters in lower case -/

/-- The character is left when its text is put into lower case. -/
structure IsLower (c : Char) : Prop where
  /-- It is no capital sigma. -/
  sigma : c ≠ 'Σ'
  /-- It is no capital I with a dot. -/
  dotted : c ≠ 'İ'
  /-- Its lower case is itself. -/
  same : lowerChar c = c

/-- The code points that none moves to: those that move themselves, the capital I with a dot, the
surrogates, and those of blanks. -/
def unsettledRuns : List CaseRun :=
  lowerRuns ++ ⟨0x130, 0x130, 1, 0⟩ :: ⟨0xD800, 0xDFFF, 1, 0⟩ ::
    blankRanges.map fun (low, high) => ⟨low, high, 1, 0⟩

namespace CaseRun

/-- Where a code point of the run moves to. -/
def moved (run : CaseRun) (code : Nat) : Nat := ((code : Int) + run.shift).toNat

/-- The run moves past the other one, or in between its code points. -/
def clears (run other : CaseRun) : Bool :=
  Nat.blt (run.moved run.last) other.first || Nat.blt other.last (run.moved run.first) ||
    ((Nat.beq run.first run.last || Nat.beq (run.step % other.step) 0) &&
      !Nat.beq (run.moved run.first % other.step) (other.first % other.step))

/-- The run moves to code points that stay. -/
def settles (run : CaseRun) : Bool :=
  decide (0 ≤ (run.first : Int) + run.shift) && Nat.blt (run.moved run.last) 0x110000 &&
    unsettledRuns.all run.clears

/-- A code point of a run is a number of steps from the first one. -/
theorem exists_place {run : CaseRun} {code : Nat} (member : run.contains code = true) :
    run.first ≤ code ∧ code ≤ run.last ∧ ∃ place, code = run.first + run.step * place := by
  simp only [contains, Bool.and_eq_true, decide_eq_true_eq, beq_iff_eq] at member
  obtain ⟨⟨above, below⟩, placed⟩ := member
  obtain ⟨place, spaced⟩ := Nat.dvd_of_mod_eq_zero placed
  exact ⟨above, below, place, by omega⟩

/-- What moves clear of a run does not come to a code point of it. -/
theorem contains_moved {run other : CaseRun} {code : Nat} (member : run.contains code = true)
    (natural : 0 ≤ (run.first : Int) + run.shift) (clear : run.clears other = true) :
    other.contains (run.moved code) = false := by
  obtain ⟨above, below, place, spaced⟩ := exists_place member
  have low : run.moved run.first ≤ run.moved code := by
    unfold moved
    omega
  have high : run.moved code ≤ run.moved run.last := by
    unfold moved
    omega
  rw [Bool.eq_false_iff]
  intro there
  obtain ⟨otherAbove, otherBelow, otherPlace, otherSpaced⟩ := exists_place there
  simp only [clears, Bool.or_eq_true, Bool.and_eq_true, Nat.blt_eq, Nat.beq_eq, Bool.not_eq_true',
    ← Bool.not_eq_true] at clear
  obtain (before | behind) | ⟨even, odd⟩ := clear
  · omega
  · omega
  · apply odd
    have same : run.moved code % other.step = run.moved run.first % other.step := by
      have distance : run.moved code = run.moved run.first + run.step * place := by
        unfold moved
        omega
      obtain single | divides := even
      · have none : run.step * place = 0 := by omega
        rw [distance, none, Nat.add_zero]
      · rw [distance, Nat.add_mod, Nat.mul_mod, divides, Nat.zero_mul, Nat.zero_mod, Nat.add_zero,
          Nat.mod_mod]
    rw [← same, otherSpaced, Nat.add_mul_mod_self_left]

end CaseRun

/-- Every code point that moves comes to one that stays. -/
theorem lowerRuns_settle : lowerRuns.all CaseRun.settles = true := by decide +kernel

/-- A code point that no unsettled run contains stands for a character that is left and is not
blank. -/
theorem isLower_of_settled {code : Nat} (bounded : code < 0x110000)
    (settled : ∀ other ∈ unsettledRuns, other.contains code = false) :
    IsLower (Char.ofNat code) ∧ isBlank (Char.ofNat code) = false := by
  have apart {low high : Nat} (unsettled : ⟨low, high, 1, 0⟩ ∈ unsettledRuns) :
      ¬ (low ≤ code ∧ code ≤ high) := by
    simpa [CaseRun.contains, Nat.mod_one] using settled _ unsettled
  have valid : code.isValidChar := by
    have surrogates : ¬ (0xD800 ≤ code ∧ code ≤ 0xDFFF) := apart (by simp [unsettledRuns])
    unfold Nat.isValidChar
    omega
  have same : (Char.ofNat code).toNat = code := by
    unfold Char.ofNat
    rw [dif_pos valid]
    unfold Char.ofNatAux Char.toNat
    simp
  have left : ∀ run ∈ lowerRuns, run.contains code = false := fun run member =>
    settled run (List.mem_append_left _ member)
  refine ⟨⟨?_, ?_, ?_⟩, ?_⟩
  · intro sigma
    have moves : lowerRuns.any (·.contains 'Σ'.toNat) = true := by decide +kernel
    obtain ⟨run, member, contained⟩ := List.any_eq_true.mp moves
    rw [← sigma, same, left run member] at contained
    cases contained
  · intro dotted
    have beside : ¬ (0x130 ≤ code ∧ code ≤ 0x130) := apart (by simp [unsettledRuns])
    rw [← same, dotted] at beside
    exact beside (by decide)
  · have none : lowerRuns.find? (·.contains (Char.ofNat code).toNat) = none := by
      rw [same, List.find?_eq_none]
      exact fun run member => by simp [left run member]
    rw [lowerChar, none]
  · rw [isBlank, CodeRanges.covers, same, List.any_eq_false]
    rintro ⟨low, high⟩ member
    have outside : ¬ (low ≤ code ∧ code ≤ high) := by
      refine apart (List.mem_append_right _ ?_)
      exact List.mem_cons_of_mem _ (List.mem_cons_of_mem _ (List.mem_map_of_mem member))
    simpa using outside

/-- The lower case of a character is left, but for the two exceptions, and is blank only if the
character is. -/
theorem lowerChar_settled {c : Char} (sigma : c ≠ 'Σ') (dotted : c ≠ 'İ') :
    IsLower (lowerChar c) ∧ (isBlank c = false → isBlank (lowerChar c) = false) := by
  cases found : lowerRuns.find? (·.contains c.toNat) with
  | none =>
    have left : lowerChar c = c := by rw [lowerChar, found]
    rw [left]
    exact ⟨⟨sigma, dotted, left⟩, id⟩
  | some run =>
    have moves : lowerChar c = Char.ofNat (run.moved c.toNat) := by
      rw [lowerChar, found]
      rfl
    have member : run.contains c.toNat = true := by
      have satisfied := List.find?_some found
      exact satisfied
    have settles := List.all_eq_true.mp lowerRuns_settle run (List.mem_of_find?_eq_some found)
    simp only [CaseRun.settles, Bool.and_eq_true, decide_eq_true_eq, Nat.blt_eq,
      List.all_eq_true] at settles
    obtain ⟨⟨natural, bounded⟩, clear⟩ := settles
    obtain ⟨-, below, -⟩ := CaseRun.exists_place member
    have bound : run.moved c.toNat ≤ run.moved run.last := by
      unfold CaseRun.moved
      omega
    have settled := isLower_of_settled (Nat.lt_of_le_of_lt bound bounded)
      fun other unsettled => CaseRun.contains_moved member natural (clear other unsettled)
    rw [moves]
    exact ⟨settled.1, fun _ => settled.2⟩

/-- What becomes of a character that stands behind others and before others. -/
def lowered (before : List Char) (c : Char) (after : List Char) : List Char :=
  if c = 'Σ' then [if isFinalSigma before after then 'ς' else 'σ']
  else if c = 'İ' then ['i', '\u0307']
  else [lowerChar c]

/-- A text is put into lower case character by character. -/
theorem lowercaseChars_cons (before : List Char) (c : Char) (rest : List Char) :
    lowercaseChars before (c :: rest) =
      lowered before c rest ++ lowercaseChars (c :: before) rest := rfl

/-- Something becomes of it. -/
theorem lowered_ne_nil (before : List Char) (c : Char) (after : List Char) :
    lowered before c after ≠ [] := by
  unfold lowered
  split
  · simp
  · split
    · simp
    · simp

/-- It is left from then on, and is not blank if the character is not. -/
theorem of_mem_lowered {before after : List Char} {c d : Char}
    (member : d ∈ lowered before c after) :
    IsLower d ∧ (isBlank c = false → isBlank d = false) := by
  have small : IsLower 'ς' ∧ IsLower 'σ' ∧ IsLower 'i' ∧ IsLower '\u0307' :=
    ⟨⟨by decide, by decide, by decide +kernel⟩, ⟨by decide, by decide, by decide +kernel⟩,
      ⟨by decide, by decide, by decide +kernel⟩, ⟨by decide, by decide, by decide +kernel⟩⟩
  obtain ⟨final, inner, letter, dot⟩ := small
  unfold lowered at member
  split at member
  · split at member
    · rw [List.mem_singleton.mp member]
      exact ⟨final, fun _ => by decide⟩
    · rw [List.mem_singleton.mp member]
      exact ⟨inner, fun _ => by decide⟩
  · rename_i sigma
    split at member
    · rcases List.mem_cons.mp member with rfl | later
      · exact ⟨letter, fun _ => by decide⟩
      · rw [List.mem_singleton.mp later]
        exact ⟨dot, fun _ => by decide⟩
    · rename_i dotted
      rw [List.mem_singleton.mp member]
      exact lowerChar_settled sigma dotted

/-- Every character of a text in lower case is left. -/
theorem isLower_of_mem (before chars : List Char) :
    ∀ c ∈ lowercaseChars before chars, IsLower c := by
  induction chars generalizing before with
  | nil =>
    intro c none
    cases none
  | cons first rest inductionHypothesis =>
    intro c member
    rw [lowercaseChars_cons] at member
    rcases List.mem_append.mp member with here | later
    · exact (of_mem_lowered here).1
    · exact inductionHypothesis (first :: before) c later

/-- Such characters are left, whatever stands before them. -/
theorem lowercaseChars_of_lower {chars : List Char} (lower : ∀ c ∈ chars, IsLower c)
    (before : List Char) : lowercaseChars before chars = chars := by
  induction chars generalizing before with
  | nil => rfl
  | cons c rest inductionHypothesis =>
    obtain ⟨here, others⟩ := List.forall_mem_cons.mp lower
    rw [lowercaseChars_cons, inductionHypothesis others, lowered, if_neg here.sigma,
      if_neg here.dotted, here.same]
    rfl

/-- A text in lower case is its own lower case. -/
theorem lowercase_lowercase (text : String) : lowercase (lowercase text) = lowercase text := by
  rw [lowercase, lowercase, String.toList_ofList,
    lowercaseChars_of_lower (isLower_of_mem [] text.toList)]

/-! ## Trimmed texts in lower case -/

/-- Neither end is blank. -/
structure IsTrimmed (chars : List Char) : Prop where
  /-- The first character is not blank. -/
  first : ∀ c ∈ chars.head?, isBlank c = false
  /-- Nor is the last one. -/
  last : ∀ c ∈ chars.getLast?, isBlank c = false

/-- Without blanks at its end a text does not end with one. -/
theorem dropBlankRight_last (chars : List Char) :
    ∀ c ∈ (dropBlankRight chars).getLast?, isBlank c = false := by
  induction chars with
  | nil =>
    intro c none
    cases none
  | cons first rest inductionHypothesis =>
    unfold dropBlankRight
    cases kept : dropBlankRight rest with
    | nil =>
      by_cases blank : isBlank first = true
      · simp [blank]
      · simp [blank]
    | cons next others =>
      rw [kept] at inductionHypothesis
      intro c member
      rw [List.getLast?_cons_cons] at member
      exact inductionHypothesis c member

/-- Trimming trims both ends. -/
theorem trimChars_isTrimmed (chars : List Char) : IsTrimmed (trimChars chars) := by
  refine ⟨?_, dropBlankRight_last _⟩
  intro c member
  unfold trimChars at member
  cases behind : chars.dropWhile isBlank with
  | nil =>
    rw [behind] at member
    cases member
  | cons first rest =>
    have kept : isBlank first = false := by
      have stops := List.head?_dropWhile_not isBlank chars
      rw [behind] at stops
      simpa using stops
    rw [behind, ← List.nil_append (first :: rest), dropBlankRight_keeps kept [] rest] at member
    obtain rfl := Option.some.inj member
    exact kept

/-- A trimmed text is left when it is trimmed. -/
theorem IsTrimmed.trimChars {chars : List Char} (trimmed : IsTrimmed chars) :
    trimChars chars = chars := by
  cases chars with
  | nil => rfl
  | cons first rest =>
    have starts : isBlank first = false := trimmed.first first rfl
    rcases List.eq_nil_or_concat (first :: rest) with none | ⟨front, last, whole⟩
    · cases none
    · rw [List.concat_eq_append] at whole
      rw [whole] at trimmed
      have ends : isBlank last = false := trimmed.last last (by simp)
      rw [Text.trimChars, List.dropWhile_cons_of_neg (by simp [starts]), whole]
      exact dropBlankRight_keeps ends front []

/-- A trimmed text is trimmed in lower case as well. -/
theorem IsTrimmed.lowercase {chars : List Char} (trimmed : IsTrimmed chars) (before : List Char) :
    IsTrimmed (lowercaseChars before chars) := by
  constructor
  · intro d member
    cases chars with
    | nil => cases member
    | cons c rest =>
      rw [lowercaseChars_cons, List.head?_append_of_ne_nil _ (lowered_ne_nil before c rest)] at member
      exact (of_mem_lowered (List.mem_of_head? member)).2 (trimmed.first c rfl)
  · -- The last character is what became of the last one.
    have ends := trimmed.last
    clear trimmed
    induction chars generalizing before with
    | nil =>
      intro d none
      cases none
    | cons c rest inductionHypothesis =>
      intro d member
      cases rest with
      | nil =>
        rw [lowercaseChars_cons, lowercaseChars, List.append_nil] at member
        exact (of_mem_lowered (List.mem_of_getLast? member)).2 (ends c rfl)
      | cons next others =>
        have filled : lowercaseChars (c :: before) (next :: others) ≠ [] := by
          rw [lowercaseChars_cons]
          exact List.append_ne_nil_of_left_ne_nil (lowered_ne_nil _ _ _) _
        rw [lowercaseChars_cons, List.getLast?_append_of_ne_nil _ filled] at member
        refine inductionHypothesis (c :: before) (fun last found => ends last ?_) d member
        rw [List.getLast?_cons_cons]
        exact found

end Text

/-- A name under which a form is known is its own spelling. -/
theorem Form.normalizeName_normalizeName (name : String) :
    normalizeName (normalizeName name) = normalizeName name := by
  have trimmed : Text.IsTrimmed (normalizeName name).toList := by
    rw [normalizeName, Text.lowercase, String.toList_ofList, Text.trim, String.toList_ofList]
    exact (Text.trimChars_isTrimmed _).lowercase []
  have same : Text.trim (normalizeName name) = normalizeName name := by
    rw [Text.trim, trimmed.trimChars, String.ofList_toList]
  have lower : Text.lowercase (normalizeName name) = normalizeName name :=
    Text.lowercase_lowercase _
  rw [normalizeName, same, lower]

end Formwork
