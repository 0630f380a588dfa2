import UsgRadius.Data.Locks
import Mathlib.Data.List.AList
import Mathlib.Data.List.FinRange

namespace UsgRadius.Data

/-! A map in shards, each behind a reader-writer lock of its own that the thread
that holds it cannot take again. The operations take the locks of their shards,
and what they hand out may keep one. -/

/-- Every key is in the shard that it is hashed to. -/
structure ShardedMap (Key Value : Type) {count : Nat} (shardOf : Key → Fin count) where
  tables : Fin count → AList fun _ : Key => Value
  placed : ∀ shard key, key ∈ tables shard → shardOf key = shard

namespace ShardedMap

variable {Key Value Outside : Type} {Other : Type → Type} {count : Nat} {shardOf : Key → Fin count}

def empty : ShardedMap Key Value shardOf where
  tables := fun _ => ∅
  placed := fun _ _ member => by cases member

def size (map : ShardedMap Key Value shardOf) : Nat :=
  ((List.finRange count).map fun shard => (map.tables shard).entries.length).sum

section Keys

variable [DecidableEq Key] (map : ShardedMap Key Value shardOf) {key other : Key}

def lookup (key : Key) : Option Value :=
  (map.tables (shardOf key)).lookup key

def insert (key : Key) (value : Value) : ShardedMap Key Value shardOf where
  tables := Function.update map.tables (shardOf key) ((map.tables (shardOf key)).insert key value)
  placed := by
    intro shard other member
    by_cases own : shard = shardOf key
    · subst own
      simp only [Function.update_self, AList.mem_insert] at member
      rcases member with rfl | present
      · rfl
      · exact map.placed _ other present
    · rw [Function.update_of_ne own] at member
      exact map.placed shard other member

def erase (key : Key) : ShardedMap Key Value shardOf where
  tables := Function.update map.tables (shardOf key) ((map.tables (shardOf key)).erase key)
  placed := by
    intro shard other member
    by_cases own : shard = shardOf key
    · subst own
      simp only [Function.update_self, AList.mem_erase] at member
      exact map.placed _ other member.2
    · rw [Function.update_of_ne own] at member
      exact map.placed shard other member

@[simp] theorem lookup_empty (key : Key) : (empty : ShardedMap Key Value shardOf).lookup key = none := rfl

@[simp] theorem lookup_insert_self (key : Key) (value : Value) : (map.insert key value).lookup key = some value := by
  simp [lookup, insert]

theorem lookup_insert_ne (differs : other ≠ key) (value : Value) :
    (map.insert key value).lookup other = map.lookup other := by
  simp only [lookup, insert]
  by_cases together : shardOf other = shardOf key
  · rw [together, Function.update_self, AList.lookup_insert_ne differs]
  · rw [Function.update_of_ne together]

@[simp] theorem lookup_erase_self (key : Key) : (map.erase key).lookup key = none := by
  simp [lookup, erase]

theorem lookup_erase_ne (differs : other ≠ key) : (map.erase key).lookup other = map.lookup other := by
  simp only [lookup, erase]
  by_cases together : shardOf other = shardOf key
  · rw [together, Function.update_self, AList.lookup_erase_ne differs]
  · rw [Function.update_of_ne together]

end Keys

inductive Step (Key Value : Type) (count : Nat) : Type → Type
  | acquire (shard : Fin count) (mode : LockMode) : Step Key Value count Unit
  | release (shard : Fin count) (mode : LockMode) : Step Key Value count Unit
  | table (shard : Fin count) : Step Key Value count (AList fun _ : Key => Value)
  | insert (key : Key) (value : Value) : Step Key Value count Unit
  | erase (key : Key) : Step Key Value count Unit

/-- Steps on a map, and those a program has of its own. -/
abbrev Effect (Other : Type → Type) (Key Value : Type) (count : Nat) (Answer : Type) : Type :=
  Step Key Value count Answer ⊕ Other Answer

structure World (Outside : Type) {Key : Type} (Value : Type) {count : Nat} (shardOf : Key → Fin count) where
  map : ShardedMap Key Value shardOf
  locks : LockTable (Fin count)
  outside : Outside

/-- A thread that waits for a lock it holds itself waits for ever. -/
def perform [DecidableEq Key] (others : (Answer : Type) → Other Answer → Outside → Answer × Outside) :
    (Answer : Type) → Effect Other Key Value count Answer → World Outside Value shardOf →
      Option (Answer × World Outside Value shardOf)
  | _, .inl (.acquire shard mode), world =>
    if world.locks.free shard mode then some ((), { world with locks := world.locks.acquire shard mode }) else none
  | _, .inl (.release shard mode), world => some ((), { world with locks := world.locks.release shard mode })
  | _, .inl (.table shard), world => some (world.map.tables shard, world)
  | _, .inl (.insert key value), world => some ((), { world with map := world.map.insert key value })
  | _, .inl (.erase key), world => some ((), { world with map := world.map.erase key })
  | Answer, .inr effect, world =>
    some ((others Answer effect world.outside).1,
      { world with outside := (others Answer effect world.outside).2 })

abbrev Action (Other : Type → Type) (Key Value : Type) (count : Nat) (Result : Type) :=
  Program (Effect Other Key Value count) Empty Result

open Program LockTable

section Operations

variable [DecidableEq Key] (shardOf)

/-- What is found is handed out together with a guard of its shard. -/
def get (key : Key) : Action Other Key Value count (Option Value) := do
  ask (.inl (.acquire (shardOf key) .read))
  match (← ask (.inl (.table (shardOf key)))).lookup key with
  | some value => return some value
  | none => do
    ask (.inl (.release (shardOf key) .read))
    return none

/-- The end of the guard that `get` handed out. -/
def dropRef (key : Key) : Action Other Key Value count Unit :=
  ask (.inl (.release (shardOf key) .read))

def put (key : Key) (value : Value) : Action Other Key Value count Unit := do
  ask (.inl (.acquire (shardOf key) .write))
  ask (.inl (.insert key value))
  ask (.inl (.release (shardOf key) .write))

def remove (key : Key) : Action Other Key Value count Unit := do
  ask (.inl (.acquire (shardOf key) .write))
  ask (.inl (.erase key))
  ask (.inl (.release (shardOf key) .write))

end Operations

def lenOf : List (Fin count) → Action Other Key Value count Nat
  | [] => return 0
  | shard :: rest => do
    ask (.inl (.acquire shard .read))
    let table ← ask (.inl (.table shard))
    ask (.inl (.release shard .read))
    let others ← lenOf rest
    return table.entries.length + others

def len : Action Other Key Value count Nat :=
  lenOf (List.finRange count)

def dropIter : Option (Fin count) → Action Other Key Value count Unit
  | none => return ()
  | some shard => ask (.inl (.release shard .read))

/-- The first entry of the shards to come. The iterator keeps a guard of the
shard it is at, the last one included when it has come to the end. -/
def nextOf (current : Option (Fin count)) :
    List (Fin count) → Action Other Key Value count (Option (Key × Value) × Option (Fin count))
  | [] => return (none, current)
  | shard :: rest => do
    ask (.inl (.acquire shard .read))
    dropIter current
    match (← ask (.inl (.table shard))).entries.head? with
    | some entry => return (some (entry.1, entry.2), some shard)
    | none => nextOf (some shard) rest

/-- `map.iter().next()`. -/
def next : Action Other Key Value count (Option (Key × Value) × Option (Fin count)) :=
  nextOf none (List.finRange count)

section First

def firstOf (map : ShardedMap Key Value shardOf) (current : Option (Fin count)) :
    List (Fin count) → Option (Key × Value) × Option (Fin count)
  | [] => (none, current)
  | shard :: rest =>
    match (map.tables shard).entries.head? with
    | some entry => (some (entry.1, entry.2), some shard)
    | none => map.firstOf (some shard) rest

variable {map : ShardedMap Key Value shardOf} {current reached : Option (Fin count)} {shards : List (Fin count)}
  {key : Key} {value : Value}

theorem firstOf_some (found : map.firstOf current shards = (some (key, value), reached)) :
    reached = some (shardOf key) := by
  induction shards generalizing current with
  | nil => cases found
  | cons shard rest ih =>
    simp only [firstOf] at found
    split at found
    · rename_i entry first
      cases found
      have member : entry.1 ∈ map.tables shard :=
        List.mem_map_of_mem (List.mem_of_mem_head? (Option.mem_def.mpr first))
      rw [map.placed shard _ member]
    · exact ih found

theorem firstOf_none (found : map.firstOf current shards = (none, reached)) :
    (shards.map fun shard => (map.tables shard).entries.length).sum = 0 := by
  induction shards generalizing current with
  | nil => rfl
  | cons shard rest ih =>
    simp only [firstOf] at found
    split at found
    · cases found
    · rename_i bare
      simp [List.head?_eq_none_iff.mp bare, ih found]

theorem firstOf_length (found : map.firstOf current shards = (some (key, value), reached)) :
    0 < (shards.map fun shard => (map.tables shard).entries.length).sum := by
  induction shards generalizing current with
  | nil => cases found
  | cons shard rest ih =>
    simp only [firstOf] at found
    simp only [List.map_cons, List.sum_cons]
    split at found
    · rename_i entry first
      have filled : 0 < (map.tables shard).entries.length :=
        List.length_pos_of_mem (List.mem_of_mem_head? (Option.mem_def.mpr first))
      omega
    · have later := ih found
      omega

end First

def iterLocks : Option (Fin count) → LockTable (Fin count)
  | none => .unlocked
  | some shard => unlocked.acquire shard .read

section Alone

variable [DecidableEq Key] {others : (Answer : Type) → Other Answer → Outside → Answer × Outside}
  {map : ShardedMap Key Value shardOf} {outside : Outside} {key : Key}

theorem get_exec : (get shardOf key : Action Other Key Value count _).exec (perform others) ⟨map, .unlocked, outside⟩ =
    match map.lookup key with
    | some value => some (.ok (some value), ⟨map, unlocked.acquire (shardOf key) .read, outside⟩)
    | none => some (.ok none, ⟨map, .unlocked, outside⟩) := by
  simp only [get, ask_bind, exec, perform, free_unlocked, if_true, lookup]
  cases (map.tables (shardOf key)).lookup key with
  | some value => rfl
  | none => simp only [exec, perform, release_acquire, pure_eq]

theorem dropRef_exec : (dropRef shardOf key : Action Other Key Value count _).exec (perform others)
    ⟨map, unlocked.acquire (shardOf key) .read, outside⟩ = some (.ok (), ⟨map, .unlocked, outside⟩) := by
  simp only [dropRef, ask, exec, perform, release_acquire]

theorem put_exec (value : Value) :
    (put shardOf key value : Action Other Key Value count _).exec (perform others) ⟨map, .unlocked, outside⟩ =
      some (.ok (), ⟨map.insert key value, .unlocked, outside⟩) := by
  simp only [put, ask, exec, perform, free_unlocked, if_true, release_acquire, perform_bind,
    ok_bind]

theorem remove_exec :
    (remove shardOf key : Action Other Key Value count _).exec (perform others) ⟨map, .unlocked, outside⟩ =
      some (.ok (), ⟨map.erase key, .unlocked, outside⟩) := by
  simp only [remove, ask, exec, perform, free_unlocked, if_true, release_acquire, perform_bind,
    ok_bind]

theorem remove_blocked : (remove shardOf key : Action Other Key Value count _).exec (perform others)
    ⟨map, unlocked.acquire (shardOf key) .read, outside⟩ = none := by
  have busy : (unlocked.acquire (shardOf key) .read).free (shardOf key) .write = false := by
    simp [free, acquire, unlocked]
  simp only [remove, ask_bind, exec, perform, busy, Bool.false_eq_true, if_false]

theorem lenOf_exec (shards : List (Fin count)) :
    (lenOf shards : Action Other Key Value count _).exec (perform others) ⟨map, .unlocked, outside⟩ =
      some (.ok (shards.map fun shard => (map.tables shard).entries.length).sum, ⟨map, .unlocked, outside⟩) := by
  induction shards with
  | nil => rfl
  | cons shard rest ih =>
    simp only [lenOf, ask_bind, exec, perform, free_unlocked, if_true, release_acquire]
    rw [exec_bind ih]
    rfl

theorem len_exec : (len : Action Other Key Value count _).exec (perform others) ⟨map, .unlocked, outside⟩ =
    some (.ok map.size, ⟨map, .unlocked, outside⟩) :=
  lenOf_exec _

theorem advance_exec (current : Option (Fin count)) (shard : Fin count) :
    (do ask (.inl (.acquire shard .read)); dropIter current : Action Other Key Value count Unit).exec (perform others)
      ⟨map, iterLocks current, outside⟩ = some (.ok (), ⟨map, iterLocks (some shard), outside⟩) := by
  cases current with
  | none => simp only [ask_bind, exec, perform, iterLocks, free_unlocked, if_true, dropIter, pure_eq]
  | some before =>
    have free : (unlocked.acquire before .read).free shard .read = true := by
      simp [free, acquire, unlocked]
    simp only [dropIter, iterLocks, ask, perform_bind, ok_bind, exec, perform, free, if_true,
      release_acquire_acquire]

theorem nextOf_exec (current : Option (Fin count)) (shards : List (Fin count)) :
    (nextOf current shards : Action Other Key Value count _).exec (perform others) ⟨map, iterLocks current, outside⟩ =
      some (.ok (map.firstOf current shards), ⟨map, iterLocks (map.firstOf current shards).2, outside⟩) := by
  induction shards generalizing current with
  | nil => rfl
  | cons shard rest ih =>
    have split : (nextOf current (shard :: rest) : Action Other Key Value count _) =
        (do ask (.inl (.acquire shard .read)); dropIter current) >>= fun _ => (do
          match (← ask (.inl (.table shard))).entries.head? with
          | some entry => return (some (entry.1, entry.2), some shard)
          | none => nextOf (some shard) rest) := rfl
    rw [split, exec_bind (advance_exec current shard)]
    simp only [ask_bind, exec, perform, firstOf]
    cases (map.tables shard).entries.head? with
    | some entry => rfl
    | none => exact ih _

theorem next_exec : (next : Action Other Key Value count _).exec (perform others) ⟨map, .unlocked, outside⟩ =
    some (.ok (map.firstOf none (List.finRange count)),
      ⟨map, iterLocks (map.firstOf none (List.finRange count)).2, outside⟩) :=
  nextOf_exec none _

theorem dropIter_exec (current : Option (Fin count)) :
    (dropIter current : Action Other Key Value count _).exec (perform others) ⟨map, iterLocks current, outside⟩ =
      some (.ok (), ⟨map, .unlocked, outside⟩) := by
  cases current with
  | none => rfl
  | some shard => simp only [dropIter, ask, exec, perform, iterLocks, release_acquire]

end Alone

end ShardedMap

end UsgRadius.Data
