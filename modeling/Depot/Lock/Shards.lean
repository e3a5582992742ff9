import Depot.Text.Utf8

/-!
# Locks on identifiers

Identifiers share a fixed number of locks, the shards: a hash says which shard
an identifier has.  An operation on two identifiers takes both shards, the one
with the lower number first, so that two operations never wait for each other.
-/

namespace Depot.Lock

set_option autoImplicit false

/-- A number of shards, at least one, and the shard of each identifier. -/
structure Shards where
  count : Nat
  count_pos : 0 < count := by omega
  shardOf : String → Nat
  shardOf_lt : ∀ identifier, shardOf identifier < count

/-- What an operation locks. -/
inductive Request where
  | one (identifier : String)
  | pair (first second : String)
  deriving DecidableEq, Repr

namespace Shards

/-- A hash of a text: its bytes as digits of a number, reduced on the way. -/
def hash (text : String) : UInt64 :=
  (Text.bytes text).foldl (fun h b => (h ^^^ b.toUInt64) * 1099511628211) 14695981039346656037

/-- Shards of the given number, one when it is zero, told apart by some hash of identifiers. -/
def ofHash (hash : String → UInt64) (count : Nat) : Shards where
  count := max 1 count
  shardOf identifier := (hash identifier).toNat % max 1 count
  shardOf_lt _ := Nat.mod_lt _ (by omega)

/-- Shards to run the locks with; what is shown of locks holds for shards of every hash. -/
def ofCount (count : Nat) : Shards := ofHash hash count

/-- The shards that a request takes, in the order in which it takes them. -/
def acquisition (s : Shards) : Request → List Nat
  | .one identifier => [s.shardOf identifier]
  | .pair first second =>
      let a := s.shardOf first
      let b := s.shardOf second
      if a = b then [a] else if a < b then [a, b] else [b, a]

end Shards

abbrev Held := List Nat

/-- Takes the shards of a request when all of them are free; otherwise takes none. -/
def Shards.tryTake (s : Shards) (held : Held) (request : Request) : Option Held :=
  let wanted := s.acquisition request
  if wanted.any held.contains then none else some (wanted ++ held)

end Depot.Lock
