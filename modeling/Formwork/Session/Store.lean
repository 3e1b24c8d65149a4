import Formwork.Json.Basic

/-!
# The session store

Values are kept under keys until their time is over. Time is what a clock shows that the caller reads,
in seconds or in parts of them; a value written with a lifetime of zero is over at once, and one whose
end no clock could name is kept to the last moment that it can. A value whose time is over cannot be
told from one that was never written, and the next write sweeps it out.
-/

namespace Formwork

/-- A clock: how finely it divides a second, and how far it goes. -/
structure Clock where
  /-- The number of its units in a second. -/
  perSecond : Nat := 1
  /-- The last moment that it can name; none if it goes on for ever. -/
  last : Option Int := none

namespace Clock

/-- Whole seconds without an end. -/
def seconds : Clock := {}

/-- Nanoseconds from the beginning of 1970 to the end of the year 262142. -/
def nanoseconds : Clock := { perSecond := 1000000000, last := some 8210266876799999999999 }

/-- The moment can be named. -/
def names (clock : Clock) (moment : Int) : Prop := ∀ last ∈ clock.last, moment ≤ last

instance (clock : Clock) (moment : Int) : Decidable (clock.names moment) :=
  inferInstanceAs (Decidable (∀ last ∈ clock.last, moment ≤ last))

/-- The moment a number of seconds later, whether or not it can be named. -/
def later (clock : Clock) (now : Int) (lifetime : Nat) : Int := now + lifetime * clock.perSecond

/-- The moment at which a lifetime in seconds ends. A lifetime whose end cannot be named ends with
the clock. -/
def expiry (clock : Clock) (now : Int) (lifetime : Nat) : Int :=
  let moment := clock.later now lifetime
  if clock.names moment then moment else clock.last.getD moment

/-- On a clock of whole seconds a lifetime is added. -/
@[simp] theorem expiry_seconds (now : Int) (lifetime : Nat) :
    seconds.expiry now lifetime = now + lifetime := by
  simp [expiry, later, seconds]

end Clock

/-- A stored value with the time at which it is over. -/
structure StoredValue where
  /-- The value. -/
  value : Json
  /-- The first moment at which it is no longer there. -/
  expiry : Int

/-- The time of the value is over. -/
def StoredValue.isExpired (stored : StoredValue) (now : Int) : Bool := stored.expiry ≤ now

/-- Values by key, those whose time is over among them until they are swept out. -/
structure SessionStore where
  /-- The stored values. -/
  byKey : TextMap StoredValue := .empty

namespace SessionStore

/-- Nothing is stored. -/
def empty : SessionStore := {}

/-- The number of stored values, those whose time is over among them. -/
def size (store : SessionStore) : Nat := store.byKey.size

/-- Nothing is stored. -/
def isEmpty (store : SessionStore) : Bool := store.byKey.isEmpty

/-- The value under a key, while its time is not over. -/
def get? (store : SessionStore) (now : Int) (key : String) : Option Json :=
  ((store.byKey.get? key).filter fun stored => !stored.isExpired now).map (·.value)

/-- Drops every value whose time is over. -/
def sweep (store : SessionStore) (now : Int) : SessionStore :=
  ⟨store.byKey.filterValues fun stored => !stored.isExpired now⟩

/-- Sweeps the store and writes a value with a lifetime in seconds. -/
def insert (store : SessionStore) (now : Int) (key : String) (value : Json) (lifetime : Nat)
    (clock : Clock := .seconds) : SessionStore :=
  ⟨(store.sweep now).byKey.insert key ⟨value, clock.expiry now lifetime⟩⟩

/-- Removes the value under a key. -/
def erase (store : SessionStore) (key : String) : SessionStore := ⟨store.byKey.erase key⟩

/-- Puts the end of a value's time a second into the past. -/
def expire (store : SessionStore) (now : Int) (key : String) (clock : Clock := .seconds) :
    SessionStore :=
  ⟨store.byKey.modify key fun stored => { stored with expiry := now - clock.perSecond }⟩

end SessionStore

end Formwork
