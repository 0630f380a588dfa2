import Mathlib.Data.List.Nodup
import Mathlib.Order.Lattice

namespace UsgRadius.Data

/-! A map kept in the order of its keys, as a `BTreeMap` is. -/

structure OrderedMap (Key Value : Type) [LinearOrder Key] where
  entries : List (Key × Value)
  sorted : entries.Pairwise fun left right => left.1 < right.1

namespace OrderedMap

variable {Key Value : Type} [LinearOrder Key] {key : Key} {entry : Key × Value} {entries : List (Key × Value)}
  {map : OrderedMap Key Value}

def empty : OrderedMap Key Value where
  entries := []
  sorted := .nil

def insertEntry (key : Key) (value : Value) : List (Key × Value) → List (Key × Value)
  | [] => [(key, value)]
  | entry :: rest =>
    if key < entry.1 then (key, value) :: entry :: rest
    else if key = entry.1 then (key, value) :: rest
    else entry :: insertEntry key value rest

theorem key_of_mem_insertEntry {value : Value} (member : entry ∈ insertEntry key value entries) :
    entry = (key, value) ∨ entry ∈ entries := by
  induction entries with
  | nil => exact .inl (List.mem_singleton.mp member)
  | cons head rest ih =>
    simp only [insertEntry] at member
    split at member
    · exact (List.mem_cons.mp member)
    · grind

theorem insertEntry_sorted (key : Key) (value : Value) (sorted : entries.Pairwise fun left right => left.1 < right.1) :
    (insertEntry key value entries).Pairwise fun left right => left.1 < right.1 := by
  induction entries with
  | nil => exact List.pairwise_singleton _ _
  | cons head rest ih =>
    obtain ⟨above, ordered⟩ := List.pairwise_cons.mp sorted
    simp only [insertEntry]
    split
    · grind
    · rename_i notFirst
      split
      · rename_i same
        apply List.pairwise_cons.mpr ⟨?_, ordered⟩
        intro entry member
        rw [same]
        exact above entry member
      · rename_i different
        apply List.pairwise_cons.mpr ⟨?_, ih ordered⟩
        intro entry member
        rcases key_of_mem_insertEntry member with rfl | old
        · exact lt_of_le_of_ne (not_lt.mp notFirst) (Ne.symm different)
        · exact above entry old

def insert (key : Key) (value : Value) (map : OrderedMap Key Value) : OrderedMap Key Value where
  entries := insertEntry key value map.entries
  sorted := insertEntry_sorted key value map.sorted

def erase (key : Key) (map : OrderedMap Key Value) : OrderedMap Key Value where
  entries := map.entries.filter fun entry => entry.1 ≠ key
  sorted := map.sorted.filter _

def popFirst (map : OrderedMap Key Value) : Option ((Key × Value) × OrderedMap Key Value) :=
  match split : map.entries with
  | [] => none
  | first :: rest => some (first, ⟨rest, by
      have sorted := map.sorted
      rw [split] at sorted
      exact (List.pairwise_cons.mp sorted).2⟩)

theorem popFirst_of_nil (empty : map.entries = []) : map.popFirst = none := by
  unfold popFirst
  split
  next => rfl
  next head tail found =>
    rw [empty] at found
    cases found

theorem popFirst_of_cons {rest : List (Key × Value)} (first : map.entries = entry :: rest) :
    ∃ others, map.popFirst = some (entry, others) := by
  unfold popFirst
  split
  next empty =>
    rw [first] at empty
    cases empty
  next head tail found =>
    rw [first] at found
    cases found
    exact ⟨_, rfl⟩

theorem eq_of_key_eq {other : Key × Value} (member : entry ∈ map.entries) (present : other ∈ map.entries)
    (same : entry.1 = other.1) : entry = other := by
  have distinct : (map.entries.map Prod.fst).Nodup := List.pairwise_map.mpr (map.sorted.imp ne_of_lt)
  exact List.inj_on_of_nodup_map distinct member present same

theorem mem_insert_self (key : Key) (value : Value) (map : OrderedMap Key Value) :
    (key, value) ∈ (map.insert key value).entries := by
  have inserted (entries : List (Key × Value)) : (key, value) ∈ insertEntry key value entries := by
    induction entries with
    | nil => exact List.mem_cons_self
    | cons entry rest ih =>
      simp only [insertEntry]
      split
      · exact List.mem_cons_self
      · split
        · exact List.mem_cons_self
        · exact List.mem_cons_of_mem _ ih
  exact inserted _

theorem entries_insert_last (above : ∀ entry ∈ map.entries, entry.1 < key) (value : Value) :
    (map.insert key value).entries = map.entries ++ [(key, value)] := by
  have last (entries : List (Key × Value)) (above : ∀ entry ∈ entries, entry.1 < key) :
      insertEntry key value entries = entries ++ [(key, value)] := by
    induction entries with
    | nil => rfl
    | cons entry rest ih =>
      have smaller := above entry List.mem_cons_self
      rw [insertEntry, if_neg (not_lt_of_gt smaller), if_neg (ne_of_gt smaller),
        ih fun later member => above later (List.mem_cons_of_mem _ member), List.cons_append]
  exact last _ above

end OrderedMap

theorem takeWhile_eq_filter {Value : Type} {test : Value → Bool} {values : List Value}
    (first : values.Pairwise fun earlier later => test later = true → test earlier = true) :
    values.takeWhile test = values.filter test ∧ values.dropWhile test = values.filter fun value => !test value := by
  induction values with
  | nil => exact ⟨rfl, rfl⟩
  | cons value rest ih =>
    obtain ⟨before, first⟩ := List.pairwise_cons.mp first
    obtain ⟨taken, dropped⟩ := ih first
    cases found : test value with
    | true => simp [found, taken, dropped]
    | false =>
      have none : ∀ later ∈ rest, test later = false := by
        grind
      have empty : rest.filter test = [] := List.filter_eq_nil_iff.mpr fun later member => by simp [none later member]
      have whole : rest.filter (fun value => !test value) = rest :=
        List.filter_eq_self.mpr fun later member => by simp [none later member]
      simp [found, empty, whole]

end UsgRadius.Data
