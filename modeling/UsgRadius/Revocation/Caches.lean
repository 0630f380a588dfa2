import UsgRadius.Revocation.Crl
import UsgRadius.Revocation.Ocsp
import Mathlib.Data.List.AList

namespace UsgRadius.Revocation

open Data

/-! The caches of fetched CRLs and of OCSP responses. An entry is kept for a time,
and the oldest entry makes room for a new one. -/

structure Cached (Value : Type) where
  value : Value
  cachedAt : Nat
  ttl : Nat
deriving DecidableEq

def Cached.isExpired {Value : Type} (entry : Cached Value) (now : Nat) : Bool :=
  now - entry.cachedAt > entry.ttl

abbrev TtlCache (Key Value : Type) := AList fun _ : Key => Cached Value

namespace TtlCache

variable {Key Value : Type} [DecidableEq Key]

/-- An entry that is expired, or no longer `usable`, is removed. -/
def get (now : Nat) (usable : Value → Bool) (key : Key) (cache : TtlCache Key Value) :
    Option Value × TtlCache Key Value :=
  match cache.lookup key with
  | none => (none, cache)
  | some entry =>
    if entry.isExpired now || !usable entry.value then (none, cache.erase key)
    else (some entry.value, cache)

/-- The first of the entries, as they are visited, that is older than the limit
and than all before it, and in the end than all others. -/
def oldest (limit : Option Nat) (visited : List ((_ : Key) × Cached Value)) : Option Key :=
  (visited.foldl
    (fun best entry =>
      if best.2.all fun time => entry.2.cachedAt < time then (some entry.1, some entry.2.cachedAt) else best)
    (none, limit)).1

def evictOldest (limit : Option Nat) (visited : List ((_ : Key) × Cached Value)) (cache : TtlCache Key Value) :
    TtlCache Key Value :=
  match oldest limit visited with
  | some key => cache.erase key
  | none => cache

def insert (limit : Option Nat) (visited : List ((_ : Key) × Cached Value)) (now maxEntries : Nat) (key : Key)
    (value : Value) (ttl : Nat) (cache : TtlCache Key Value) : TtlCache Key Value :=
  let cache := if cache.entries.length ≥ maxEntries then evictOldest limit visited cache else cache
  AList.insert key ⟨value, now, ttl⟩ cache

section Entries

variable {now : Nat} {usable : Value → Bool} {key : Key} {value : Value} {cache : TtlCache Key Value}
  {entry : (_ : Key) × Cached Value}

theorem mem_of_mem_erase (member : entry ∈ (cache.erase key).entries) : entry ∈ cache.entries :=
  (List.kerase_sublist key cache.entries).subset member

theorem get_fst (found : (get now usable key cache).1 = some value) :
    ∃ entry ∈ cache.entries, entry.1 = key ∧ entry.2.value = value := by
  unfold get at found
  split at found
  · cases found
  · rename_i entry held
    split at found
    · cases found
    · cases found
      exact ⟨⟨key, entry⟩, AList.mem_lookup_iff.mp held, rfl, rfl⟩

theorem mem_of_mem_get (member : entry ∈ (get now usable key cache).2.entries) : entry ∈ cache.entries := by
  unfold get at member
  split at member
  · exact member
  · split at member
    · exact mem_of_mem_erase member
    · exact member

theorem mem_of_mem_insert {limit : Option Nat} {visited : List ((_ : Key) × Cached Value)} {maxEntries ttl : Nat}
    (member : entry ∈ (insert limit visited now maxEntries key value ttl cache).entries) :
    entry = ⟨key, value, now, ttl⟩ ∨ entry ∈ cache.entries := by
  simp only [insert, AList.entries_insert, List.mem_cons] at member
  refine member.imp_right fun old => ?_
  have kept := (List.kerase_sublist key _).subset old
  split at kept
  · unfold evictOldest at kept
    split at kept
    · exact mem_of_mem_erase kept
    · exact kept
  · exact kept

end Entries

end TtlCache

abbrev CrlCache := TtlCache String CrlInfo

namespace CrlCache

def get (now : Nat) (url : String) (cache : CrlCache) : Option CrlInfo × CrlCache :=
  TtlCache.get now (fun _ => true) url cache

def insert (visited : List ((_ : String) × Cached CrlInfo)) (now maxEntries : Nat) (url : String) (crlInfo : CrlInfo)
    (ttl : Nat) (cache : CrlCache) : CrlCache :=
  TtlCache.insert none visited now maxEntries url crlInfo ttl cache

end CrlCache

abbrev OcspCache := TtlCache Octets OcspResponse

namespace OcspCache

/-- `wallClock` is the system time, which also has to be before nextUpdate. -/
def get (now wallClock : Nat) (key : Octets) (cache : OcspCache) : Option OcspResponse × OcspCache :=
  TtlCache.get now (·.isFreshAt wallClock) key cache

/-- Only an entry that was cached before `now` makes room. -/
def insert (visited : List ((_ : Octets) × Cached OcspResponse)) (now wallClock maxEntries maxTtl : Nat) (key : Octets)
    (response : OcspResponse) (cache : OcspCache) : OcspCache :=
  TtlCache.insert (some now) visited now maxEntries key response (min (response.cacheTtl wallClock) maxTtl) cache

end OcspCache

end UsgRadius.Revocation
