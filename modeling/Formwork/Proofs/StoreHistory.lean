import Formwork.Proofs.MapLookup
import Formwork.Session.Store
import Mathlib.Data.List.Induction

/-!
# What a store holds after its history

Values whose time is over stay in a store until some write sweeps them out, so what is
stored is not what was written last. What can still be told apart is the live value
under a key: a step that touches the key decides it, and every other step leaves it, a
sweep included, because time does not run backwards. By induction over the history the
live value under a key is what the last step left that touched it, for as long as its
lifetime lasts.
-/

namespace Formwork

/-! ## Clocks -/

namespace Clock

/-- The clock can show the moment: it does not reach the last one that it can name. -/
def Shows (clock : Clock) (moment : Int) : Prop := ∀ last ∈ clock.last, moment < last

/-- As far as a clock shows, a lifetime has not ended exactly if its end is still to come or
cannot be named. -/
theorem lt_expiry_iff {clock : Clock} {moment : Int} (shown : clock.Shows moment) (now : Int)
    (lifetime : Nat) :
    moment < clock.expiry now lifetime ↔
      (clock.names (clock.later now lifetime) → moment < clock.later now lifetime) := by
  unfold expiry
  dsimp only
  split
  · rename_i named
    exact ⟨fun before _ => before, fun before => before named⟩
  · rename_i unnamed
    refine iff_of_true ?_ fun named => absurd named unnamed
    cases ended : clock.last with
    | none => exact absurd (fun last there => by rw [ended] at there; cases there) unnamed
    | some last => exact shown last ended

/-- A lifetime of more milliseconds than a signed 64-bit number can hold ends behind every moment
that can be named, wherever it begins. -/
theorem nanoseconds_unnamed {now : Int} (shown : -nanoseconds.last.getD 0 ≤ now) {lifetime : Nat}
    (long : 9223372036854775807 < lifetime * 1000) :
    ¬ nanoseconds.names (nanoseconds.later now lifetime) := by
  intro named
  have bound := named _ rfl
  simp only [later, nanoseconds, Option.getD_some] at bound shown
  omega

end Clock

namespace SessionStore

/-! ## Live values -/

/-- The stored value under a key, while its time is not over. -/
def live? (store : SessionStore) (moment : Int) (key : String) : Option StoredValue :=
  (store.byKey.get? key).filter fun stored => !stored.isExpired moment

/-- What is read is the live value. -/
theorem get?_eq_live (store : SessionStore) (moment : Int) (key : String) :
    store.get? moment key = (store.live? moment key).map (·.value) := rfl

/-- Values whose time is over stay over. -/
theorem filter_live {swept moment : Int} (past : swept ≤ moment) (found : Option StoredValue) :
    ((found.filter fun stored => !stored.isExpired swept).filter fun stored =>
      !stored.isExpired moment) = found.filter fun stored => !stored.isExpired moment := by
  rw [Option.filter_filter]
  congr 1
  funext stored
  by_cases late : stored.expiry ≤ moment
  · simp [StoredValue.isExpired, late]
  · have before : ¬ stored.expiry ≤ swept := by omega
    simp [StoredValue.isExpired, late, before]

/-- Sweeping drops no value that is live then or later. -/
theorem live?_sweep (store : SessionStore) {swept moment : Int} (past : swept ≤ moment)
    (key : String) : (store.sweep swept).live? moment key = store.live? moment key := by
  rw [live?, sweep, TextMap.get?_filterValues, filter_live past, live?]

/-! ## Histories -/

/-- Something that is done to a store. -/
inductive Action where
  /-- The value under a key is read. -/
  | get (key : String)
  /-- A value is written with a lifetime in seconds. -/
  | insert (key : String) (value : Json) (lifetime : Nat)
  /-- The value under a key is removed. -/
  | erase (key : String)
  /-- The time of the value under a key is made to be over. -/
  | expire (key : String)
  /-- Values whose time is over are swept out. -/
  | sweep

/-- The action decides what is under the key. -/
def Action.touches (key : String) : Action → Bool
  | .insert other _ _ => other == key
  | .erase other => other == key
  | .expire other => other == key
  | .get _ => false
  | .sweep => false

/-- An action at the moment that the clock shows. -/
structure Step where
  /-- The moment. -/
  time : Int
  /-- The action. -/
  action : Action

section Histories

variable (clock : Clock)

/-- The store after a step. -/
def perform (store : SessionStore) (step : Step) : SessionStore :=
  match step.action with
  | .get _ => store
  | .insert key value lifetime => store.insert step.time key value lifetime clock
  | .erase key => store.erase key
  | .expire key => store.expire step.time key clock
  | .sweep => store.sweep step.time

/-- The store after a step, if nothing is ever swept out. -/
def performUnswept (store : SessionStore) (step : Step) : SessionStore :=
  match step.action with
  | .get _ => store
  | .insert key value lifetime =>
    ⟨store.byKey.insert key ⟨value, clock.expiry step.time lifetime⟩⟩
  | .erase key => store.erase key
  | .expire key => store.expire step.time key clock
  | .sweep => store

/-- The store after steps one after another, empty before the first. -/
def after (steps : List Step) : SessionStore := steps.foldl (perform clock) .empty

/-- The store after steps one after another, if nothing is ever swept out. -/
def afterUnswept (steps : List Step) : SessionStore :=
  steps.foldl (performUnswept clock) .empty

/-- The last step that touched a key. -/
def lastWrite? (key : String) (steps : List Step) : Option Step :=
  (steps.filter fun step => step.action.touches key).getLast?

/-- What a step leaves under a key that it touches. -/
def Step.leaves? (step : Step) : Option StoredValue :=
  match step.action with
  | .insert _ value lifetime => some ⟨value, clock.expiry step.time lifetime⟩
  | _ => none

/-- A way of taking steps decides live values as the steps say: from its own moment on, a step that
touches a key leaves what it leaves there, and every other step leaves the live value. -/
def Follows (take : SessionStore → Step → SessionStore) : Prop :=
  ∀ (store : SessionStore) (step : Step) (moment : Int) (key : String), step.time ≤ moment →
    (take store step).live? moment key =
      if step.action.touches key = true then
        (step.leaves? clock).filter fun stored => !stored.isExpired moment
      else store.live? moment key

variable {clock}

/-- A value that is written is live under its key, until its time is over. -/
theorem live?_written (map : TextMap StoredValue) (key : String) (stored : StoredValue)
    (moment : Int) (asked : String) :
    live? ⟨map.insert key stored⟩ moment asked =
      if (key == asked) = true then
        (some stored).filter fun stored => !stored.isExpired moment
      else live? ⟨map⟩ moment asked := by
  rw [live?, TextMap.get?_insert]
  by_cases same : asked = key
  · simp [same]
  · simp [same, Ne.symm same, live?]

/-- A value that is removed is not live. -/
theorem live?_erase (store : SessionStore) (key : String) (moment : Int) (asked : String) :
    (store.erase key).live? moment asked =
      if (key == asked) = true then none else store.live? moment asked := by
  rw [live?, erase, TextMap.get?_erase]
  by_cases same : asked = key
  · simp [same]
  · simp [same, Ne.symm same, live?]

/-- A value whose time is made to be over is not live from then on. -/
theorem live?_expire (store : SessionStore) {now moment : Int} (past : now ≤ moment)
    (key asked : String) :
    (store.expire now key clock).live? moment asked =
      if (key == asked) = true then none else store.live? moment asked := by
  rw [live?, expire, TextMap.get?_modify]
  by_cases same : asked = key
  · subst same
    have late : now - clock.perSecond ≤ moment := by omega
    cases store.byKey.get? asked with
    | none => simp
    | some stored => simp [StoredValue.isExpired, late, Option.filter]
  · simp [same, Ne.symm same, live?]

/-- The steps of a store that never sweeps decide live values as they say. -/
theorem performUnswept_follows : Follows clock (performUnswept clock) := by
  rintro store ⟨time, action⟩ moment key past
  cases action with
  | get other => rfl
  | insert other value lifetime => exact live?_written store.byKey other _ moment key
  | erase other => exact live?_erase store other moment key
  | expire other => exact live?_expire store past other key
  | sweep => rfl

/-- So do the steps of a store that sweeps. -/
theorem perform_follows : Follows clock (perform clock) := by
  rintro store ⟨time, action⟩ moment key past
  cases action with
  | get other => rfl
  | insert other value lifetime =>
    have swept := live?_sweep store past key
    have written := live?_written (store.sweep time).byKey other
      ⟨value, clock.expiry time lifetime⟩ moment key
    rw [swept] at written
    exact written
  | erase other => exact live?_erase store other moment key
  | expire other => exact live?_expire store past other key
  | sweep => exact live?_sweep store past key

/-- The last step of a history is the last that touched a key, or the history before it says. -/
theorem lastWrite?_append (key : String) (steps : List Step) (step : Step) :
    lastWrite? key (steps ++ [step]) =
      if step.action.touches key = true then some step else lastWrite? key steps := by
  rw [lastWrite?, List.filter_append]
  by_cases touched : step.action.touches key = true
  · simp [touched]
  · simp [touched, lastWrite?]

/-- The last step that touched a key touched it. -/
theorem touches_of_lastWrite? {key : String} {steps : List Step} {step : Step}
    (last : lastWrite? key steps = some step) : step.action.touches key = true :=
  (List.mem_filter.mp (List.mem_of_getLast? last)).2

/-- After a history, the live value under a key is what the last step left that touched it. -/
theorem live?_history {take : SessionStore → Step → SessionStore} (follows : Follows clock take)
    {steps : List Step} {moment : Int} (past : ∀ step ∈ steps, step.time ≤ moment)
    (key : String) :
    (steps.foldl take .empty).live? moment key =
      (lastWrite? key steps).bind fun step =>
        (step.leaves? clock).filter fun stored => !stored.isExpired moment := by
  induction steps using List.reverseRecOn with
  | nil => rfl
  | append_singleton earlier step inductionHypothesis =>
    have before : ∀ step ∈ earlier, step.time ≤ moment := fun step member =>
      past step (List.mem_append_left _ member)
    have here : step.time ≤ moment := past step (by simp)
    rw [List.foldl_append, List.foldl_cons, List.foldl_nil, follows _ _ _ _ here,
      lastWrite?_append, inductionHypothesis before]
    split
    · rfl
    · rfl

/-- After any history of a store, a value is read under a key exactly if it was written by the last
step that touched the key and its time is not over, which it never is if the end of its lifetime
cannot be named. Sweeps cannot be observed: a store that never sweeps has the same live values, and
no step drops a live value under a key that it does not touch, for that moment or a later one.

Proof: a step at or before some moment decides what is live at that moment under the keys that it
touches and leaves the rest, whether or not it sweeps, so induction over the history finds the last
step that touched the key. -/
theorem read_after_history {steps : List Step} {now : Int} (shown : clock.Shows now)
    (past : ∀ step ∈ steps, step.time ≤ now) :
    (∀ key value, (after clock steps).get? now key = some value ↔
      ∃ time lifetime, lastWrite? key steps = some ⟨time, .insert key value lifetime⟩ ∧
        (clock.names (clock.later time lifetime) → now < clock.later time lifetime)) ∧
    (∀ key, (afterUnswept clock steps).live? now key = (after clock steps).live? now key) ∧
    ∀ earlier step others, steps = earlier ++ step :: others →
      ∀ key, step.action.touches key = false → ∀ moment, step.time ≤ moment →
        (after clock (earlier ++ [step])).live? moment key =
          (after clock earlier).live? moment key := by
  refine ⟨fun key value => ?_, fun key => ?_, ?_⟩
  · rw [get?_eq_live, after, live?_history perform_follows past]
    constructor
    · intro read
      obtain ⟨stored, live, rfl⟩ := Option.map_eq_some_iff.mp read
      obtain ⟨⟨time, action⟩, last, left⟩ := Option.bind_eq_some_iff.mp live
      obtain ⟨leaves, lasting⟩ := Option.filter_eq_some_iff.mp left
      have touched := touches_of_lastWrite? last
      cases action with
      | insert other written lifetime =>
        obtain rfl := Option.some.inj leaves
        obtain rfl : other = key := by simpa [Action.touches] using touched
        refine ⟨time, lifetime, last, ?_⟩
        rw [← Clock.lt_expiry_iff shown]
        simpa [StoredValue.isExpired] using lasting
      | get other => cases leaves
      | erase other => cases leaves
      | expire other => cases leaves
      | sweep => cases leaves
    · rintro ⟨time, lifetime, last, lasting⟩
      rw [← Clock.lt_expiry_iff shown] at lasting
      simp [last, Step.leaves?, StoredValue.isExpired, Option.filter, lasting]
  · rw [afterUnswept, after, live?_history performUnswept_follows past,
      live?_history perform_follows past]
  · intro earlier step others divided key other moment reached
    rw [after, List.foldl_append, List.foldl_cons, List.foldl_nil,
      perform_follows _ _ _ _ reached, other]
    rfl

/-- A form that is kept as long as a number can say, one that is over at once, one that is made to
be over, and one that is kept for five minutes; then what is over is swept out. -/
def formSteps : List Step :=
  [⟨0, .insert "forms.a" (.string "insertForm") 18446744073709551615⟩,
    ⟨0, .insert "forms.b" (.string "updateForm") 0⟩,
    ⟨1000000000, .insert "forms.c" (.string "editTable") 300⟩,
    ⟨1000000000, .expire "forms.c"⟩,
    ⟨2000000000, .insert "forms.d" (.string "plaintext") 300⟩,
    ⟨302000000000, .get "forms.a"⟩,
    ⟨302000000000, .sweep⟩]

/-- Only the first is there five minutes after the last was written; a nanosecond earlier the last
was there as well. -/
theorem forms_after_history :
    Clock.nanoseconds.Shows 302000000000 ∧
      (∀ step ∈ formSteps, step.time ≤ 302000000000) ∧
      (after .nanoseconds formSteps).get? 302000000000 "forms.a" = some (.string "insertForm") ∧
      (∀ key ∈ ["forms.b", "forms.c", "forms.d"], ∀ value,
        (after .nanoseconds formSteps).get? 302000000000 key ≠ some value) ∧
      (after .nanoseconds (formSteps.take 5)).get? 301999999999 "forms.d" =
        some (.string "plaintext") := by
  have shown : Clock.nanoseconds.Shows 302000000000 := by
    rintro last ⟨rfl⟩
    decide
  have earlier : Clock.nanoseconds.Shows 301999999999 := by
    rintro last ⟨rfl⟩
    decide
  have past : ∀ step ∈ formSteps, step.time ≤ 302000000000 := by decide
  have before : ∀ step ∈ formSteps.take 5, step.time ≤ 301999999999 := by decide
  have reads := (read_after_history shown past).1
  refine ⟨shown, past, ?_, ?_, ?_⟩
  · rw [reads]
    exact ⟨0, 18446744073709551615, rfl, fun named => absurd named (by decide)⟩
  · intro key member value
    rw [Ne, reads]
    rintro ⟨time, lifetime, last, lasting⟩
    simp only [List.mem_cons, List.not_mem_nil, or_false] at member
    rcases member with rfl | rfl | rfl
    · cases last
      exact absurd (lasting (by decide)) (by decide)
    · cases last
    · cases last
      exact absurd (lasting (by decide)) (by decide)
  · rw [(read_after_history earlier before).1]
    exact ⟨2000000000, 300, rfl, fun _ => by decide⟩

end Histories

end SessionStore

end Formwork
