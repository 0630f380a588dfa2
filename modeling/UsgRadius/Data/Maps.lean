import Mathlib.Data.List.AList

namespace UsgRadius.Data

/-! Counting and keeping the values of a finite map that satisfy a predicate. -/

namespace Maps

variable {Key Value : Type} {map : AList fun _ : Key => Value} {key : Key} {value : Value}

def countValues (count : Value → Bool) (map : AList fun _ : Key => Value) : Nat :=
  map.entries.countP fun entry => count entry.2

def retain (keep : Value → Bool) (map : AList fun _ : Key => Value) : AList fun _ : Key => Value where
  entries := map.entries.filter fun entry => keep entry.2
  nodupKeys := map.nodupKeys.sublist List.filter_sublist

theorem length_le_of_subset {smaller larger : AList fun _ : Key => Value}
    (within : ∀ key, key ∈ smaller → key ∈ larger) : smaller.entries.length ≤ larger.entries.length := by
  have shorter : smaller.keys.length ≤ larger.keys.length :=
    (List.subperm_of_subset smaller.keys_nodup within).length_le
  simpa [AList.keys, List.keys] using shorter

variable [DecidableEq Key]

@[grind =] theorem lookup_erase (map : AList fun _ : Key => Value) (key other : Key) :
    (map.erase key).lookup other = if other = key then none else map.lookup other := by
  split
  next same => rw [same, AList.lookup_erase]
  next differs => exact AList.lookup_erase_ne differs

@[grind =] theorem lookup_insert (map : AList fun _ : Key => Value) (key other : Key) (value : Value) :
    (map.insert key value).lookup other = if other = key then some value else map.lookup other := by
  split
  next same => rw [same, AList.lookup_insert]
  next differs => exact AList.lookup_insert_ne differs

@[grind =] theorem mem_iff_isSome (map : AList fun _ : Key => Value) (key : Key) :
    key ∈ map ↔ (map.lookup key).isSome :=
  AList.lookup_isSome.symm

theorem lookup_retain (keep : Value → Bool) (map : AList fun _ : Key => Value) (key : Key) :
    (retain keep map).lookup key = (map.lookup key).filter keep := by
  apply Option.ext
  intro value
  have kept : value ∈ (retain keep map).lookup key ↔ value ∈ map.lookup key ∧ keep value = true := by
    rw [AList.mem_lookup_iff, AList.mem_lookup_iff]
    exact List.mem_filter
  simpa [Option.filter_eq_some_iff] using kept

theorem countValues_erase (count : Value → Bool) (found : map.lookup key = some value) :
    countValues count map = countValues count (map.erase key) + if count value then 1 else 0 := by
  have member : key ∈ map.entries.keys := AList.lookup_isSome.mp (by rw [found]; rfl)
  obtain ⟨stored, front, back, _, split, erased⟩ := List.exists_of_kerase member
  have same : stored = value := by
    have present : ⟨key, stored⟩ ∈ map.entries := by rw [split]; simp
    have looked := List.mem_dlookup map.nodupKeys present
    exact Option.some.inj ((Option.mem_def.mp looked).symm.trans found)
  subst same
  have left : (map.erase key).entries = front ++ back := erased
  simp only [countValues, left, split, List.countP_append, List.countP_cons]
  omega

theorem countValues_insert (count : Value → Bool) (map : AList fun _ : Key => Value) (key : Key) (value : Value) :
    countValues count (map.insert key value) =
      countValues count (map.erase key) + if count value then 1 else 0 := by
  simp only [countValues, AList.entries_insert, List.countP_cons]
  rfl

theorem erase_of_notMem (absent : key ∉ map) : map.erase key = map := by
  apply AList.ext
  exact List.kerase_of_notMem_keys absent

theorem lookup_eraseAll (keys : List Key) (map : AList fun _ : Key => Value) (key : Key) :
    (keys.foldl (fun map key => map.erase key) map).lookup key = if key ∈ keys then none else map.lookup key := by
  induction keys generalizing map with
  | nil => rfl
  | cons first rest ih =>
    grind

theorem lookup_of_eraseAll {keys : List Key}
    (found : (keys.foldl (fun map key => map.erase key) map).lookup key = some value) :
    map.lookup key = some value ∧ key ∉ keys := by
  rw [lookup_eraseAll] at found
  split at found
  · cases found
  · rename_i absent
    exact ⟨found, absent⟩

theorem insert_erase (map : AList fun _ : Key => Value) (key : Key) (value : Value) :
    (map.erase key).insert key value = map.insert key value := by
  apply AList.ext
  have absent : key ∉ map.erase key := fun present => (AList.mem_erase.mp present).1 rfl
  rw [AList.entries_insert_of_notMem absent, AList.entries_insert]
  rfl

theorem length_erase (found : map.lookup key = some value) :
    map.entries.length = (map.erase key).entries.length + 1 := by
  simpa [countValues] using countValues_erase (fun _ => true) found

theorem length_erase_le (map : AList fun _ : Key => Value) (key : Key) :
    (map.erase key).entries.length ≤ map.entries.length := by
  cases found : map.lookup key with
  | none => rw [erase_of_notMem (AList.lookup_eq_none.mp found)]
  | some value => exact (length_erase found).symm ▸ Nat.le_succ _

theorem length_insert_of_notMem (absent : key ∉ map) (value : Value) :
    (map.insert key value).entries.length = map.entries.length + 1 := by
  rw [AList.entries_insert_of_notMem absent, List.length_cons]

theorem length_insert_of_mem (present : key ∈ map) (value : Value) :
    (map.insert key value).entries.length = map.entries.length := by
  obtain ⟨old, found⟩ := Option.isSome_iff_exists.mp (AList.lookup_isSome.mpr present)
  rw [← insert_erase, length_insert_of_notMem (fun kept => (AList.mem_erase.mp kept).1 rfl), length_erase found]

end Maps

end UsgRadius.Data
