import Parlance.Template.Intent

/-!
Compiled intents kept for later use. Their normalized patterns depend on the lexicon, so the cache
knows the revision of the lexicon it was filled under and empties itself when that changes.
-/

namespace Parlance

structure IntentKey where
  spec : String
  phrase : String
  locale : String
  deriving DecidableEq, Repr

structure IntentCache where
  entries : List (IntentKey × Intent) := []
  revision : Nat := 0

namespace IntentCache

def empty : IntentCache := {}

def get? (c : IntentCache) (k : IntentKey) : Option Intent :=
  (c.entries.find? (·.1 = k)).map (·.2)

/-- Keeps an intent, in place of the one under the same key. -/
def insert (c : IntentCache) (k : IntentKey) (i : Intent) : IntentCache :=
  { c with entries := (k, i) :: c.entries.filter (·.1 ≠ k) }

def isCurrent (c : IntentCache) (revision : Nat) : Bool :=
  c.revision = revision

/-- Drops all intents, unless they were compiled under the given revision. -/
def sync (c : IntentCache) (revision : Nat) : IntentCache :=
  if c.isCurrent revision then c else ⟨[], revision⟩

def clear (c : IntentCache) : IntentCache :=
  { c with entries := [] }

def size (c : IntentCache) : Nat :=
  c.entries.length

def isEmpty (c : IntentCache) : Bool :=
  c.entries.isEmpty

end IntentCache

end Parlance
