import Sluice.Error

/-!
# Cache of connection metadata

What was fetched for a connection is kept for a bounded time. A request is three steps: look up;
on a miss, fetch from the source; store what came back. Storing sweeps out every entry that has
expired; a failed fetch changes nothing. Times are readings of a clock that never goes back, and
every look at it is a reading of its own.
-/

namespace Sluice

/-- What was fetched for a key, and when. -/
structure CachedEntry (κ μ : Type) where
  key : κ
  content : μ
  fetchedAt : Nat
deriving DecidableEq

/-- Entries of distinct keys, and for how long each of them stays fresh. -/
structure MetadataCache (κ μ : Type) where
  ttl : Nat
  entries : List (CachedEntry κ μ) := []

namespace MetadataCache

variable {κ μ : Type} [DecidableEq κ]

/-- Whether an entry is younger than the time to live. -/
def isFresh (c : MetadataCache κ μ) (now : Nat) (e : CachedEntry κ μ) : Bool :=
  now - e.fetchedAt < c.ttl

/-- The number of entries; expired ones count until they are swept out. -/
def size (c : MetadataCache κ μ) : Nat := c.entries.length

def isEmpty (c : MetadataCache κ μ) : Bool := c.entries.isEmpty

def lookup? (c : MetadataCache κ μ) (now : Nat) (key : κ) : Option μ :=
  match c.entries.find? fun e => e.key = key with
  | some e => if c.isFresh now e then some e.content else none
  | none => none

/-- The readings of the clock while an entry is stored: one for each entry that the sweep looks at,
by its key, and then one for the new entry. -/
structure Readings (κ : Type) where
  sweep : κ → Nat
  stamp : Nat

/-- All readings at one moment. -/
def Readings.same (moment : Nat) : Readings κ := ⟨fun _ => moment, moment⟩

/-- Keep what was fetched for a key, in place of its earlier entry, and sweep out what expired. -/
def store (c : MetadataCache κ μ) (clock : Readings κ) (key : κ) (content : μ) :
    MetadataCache κ μ :=
  let kept := c.entries.filter fun e => c.isFresh (clock.sweep e.key) e && e.key ≠ key
  { c with entries := kept ++ [⟨key, content, clock.stamp⟩] }

def invalidate (c : MetadataCache κ μ) (key : κ) : MetadataCache κ μ :=
  { c with entries := c.entries.filter fun e => e.key ≠ key }

/-- Where metadata comes from; the source may change with every fetch. -/
abbrev Fetcher (σ κ μ : Type) := κ → σ → Except Error μ × σ

/-- Answer from the cache if it holds a fresh entry, else from the source. The clock is read when
the request is made, and while an answer is stored. -/
def get (c : MetadataCache κ μ) (fetch : Fetcher σ κ μ) (asked : Nat) (answered : Readings κ)
    (key : κ) (s : σ) : Except Error μ × MetadataCache κ μ × σ :=
  match c.lookup? asked key with
  | some content => (.ok content, c, s)
  | none =>
    match fetch key s with
    | (.ok content, s) => (.ok content, c.store answered key content, s)
    | (.error e, s) => (.error e, c, s)

end MetadataCache

end Sluice
