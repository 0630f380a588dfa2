import UsgRadius.Eap.Session

namespace UsgRadius.Eap

open Data OrderedMap

namespace EapSessionManager

/-! ## Calls on the store

Every call reads the clock when it begins; what is done to a session through the
reference that a call returned is done a little later. -/

/-- A change of a session by its methods and by assignments to its other fields:
the number stays, and the activity time is that of the clock if it changes. -/
structure Mutation where
  apply : (now : Nat) → EapSession → EapSession
  lruSeq : ∀ now session, (apply now session).lruSeq = session.lruSeq
  lastActivity : ∀ now session,
    (apply now session).lastActivity = session.lastActivity ∨ (apply now session).lastActivity = now

inductive Operation where
  | create (id : SessionId) (mutation : Mutation)
  | get (id : SessionId)
  | getMut (id : SessionId) (mutation : Mutation)
  | touch (id : SessionId)
  | claim (id : SessionId) (binding : Octets) (identifier : UInt8)
  | remove (id : SessionId)
  | evictIdle (asOf : Nat)
  | evict (asOf : Nat)

structure Call where
  operation : Operation
  now : Nat
  later : Nat
  ordered : now ≤ later

namespace Call

def perform (call : Call) (manager : EapSessionManager) : EapSessionManager :=
  match call.operation with
  | .create id mutation => (manager.createSession id call.now).modify id (mutation.apply call.later)
  | .get _ => manager
  | .getMut id mutation => manager.getSessionMut id call.now (mutation.apply call.later)
  | .touch id => manager.touch id call.now
  | .claim id binding identifier => (manager.claimResponse id binding identifier).2
  | .remove id => manager.removeSession id
  | .evictIdle asOf => (manager.evictIdleAt asOf).2
  | .evict asOf => (manager.evictAt asOf).2

/-- The session a call uses. -/
def uses (call : Call) : Option SessionId :=
  match call.operation with
  | .create id _ | .getMut id _ | .touch id => some id
  | _ => none

end Call

def run (calls : List Call) (manager : EapSessionManager) : EapSessionManager :=
  calls.foldl (fun manager call => call.perform manager) manager

/-- The clock never goes back. -/
def Timely : (clock : Nat) → List Call → Prop
  | _, [] => True
  | clock, call :: rest => clock ≤ call.now ∧ Timely call.later rest

def moveToEnd (id : SessionId) (uses : List SessionId) : List SessionId :=
  uses.filter (· ≠ id) ++ [id]

/-- The sessions that the calls used, by their last use. -/
def lastUses (calls : List Call) : List SessionId :=
  calls.foldl (fun uses call => call.uses.elim uses fun id => moveToEnd id uses) []

def isLive (manager : EapSessionManager) (id : SessionId) : Bool :=
  (manager.sessions.lookup id).isSome

def isIdle (now : Nat) (manager : EapSessionManager) (id : SessionId) : Bool :=
  (manager.sessions.lookup id).any (·.isTimedOutAt now manager.defaultTimeout)

/-- The index has every session under its own number, by the order of the last
uses, which is the order of the activity times too. -/
structure Kept (uses : List SessionId) (clock : Nat) (manager : EapSessionManager) : Prop where
  once : uses.Nodup
  indexed : ∀ seq id, (seq, id) ∈ manager.lru.entries ↔
    ∃ session, manager.sessions.lookup id = some session ∧ session.lruSeq = seq
  order : manager.lru.entries.map Prod.snd = uses.filter manager.isLive
  numbered : ∀ entry ∈ manager.lru.entries, 0 < entry.1 ∧ entry.1 < manager.nextSeq
  aged : ∀ id session other newer, manager.sessions.lookup id = some session →
    manager.sessions.lookup other = some newer → session.lruSeq < newer.lruSeq →
    session.lastActivity ≤ newer.lastActivity
  past : ∀ id session, manager.sessions.lookup id = some session → session.lastActivity ≤ clock
  started : 0 < manager.nextSeq
  room : 0 < manager.maxSessions

section Kept

variable {uses : List SessionId} {clock later now : Nat} {manager after : EapSessionManager} {id : SessionId}
  {session : EapSession} {rest : List (Nat × SessionId)} {gone : List (SessionId × EvictionReason)}

theorem kept_withConfig (timeout maxSessions : Nat) : Kept [] 0 (withConfig timeout maxSessions) where
  once := List.nodup_nil
  indexed := by simp [withConfig, empty]
  order := rfl
  numbered := by simp [withConfig, empty]
  aged := by simp [withConfig]
  past := by simp [withConfig]
  started := Nat.one_pos
  room := by simp [withConfig]

section

variable (kept : Kept uses clock manager)

include kept

theorem Kept.mono (waits : clock ≤ later) : Kept uses later manager :=
  { kept with past := fun id session found => (kept.past id session found).trans waits }

theorem Kept.nodup : (manager.lru.entries.map Prod.snd).Nodup := by
  rw [kept.order]
  exact kept.once.filter _

theorem Kept.mem_iff :
    id ∈ manager.lru.entries.map Prod.snd ↔ id ∈ manager.sessions := by
  rw [List.mem_map, ← AList.lookup_isSome, Option.isSome_iff_exists]
  refine ⟨?_, ?_⟩
  · intro indexed
    obtain ⟨⟨seq, _⟩, member, rfl⟩ := indexed
    obtain ⟨session, found, _⟩ := (kept.indexed _ _).mp member
    exact ⟨session, found⟩
  · intro live
    obtain ⟨session, found⟩ := live
    exact ⟨(session.lruSeq, id), (kept.indexed _ _).mpr ⟨session, found, rfl⟩, rfl⟩

theorem Kept.perm : (manager.lru.entries.map Prod.snd).Perm manager.sessions.keys :=
  (List.perm_ext_iff_of_nodup kept.nodup manager.sessions.keys_nodup).mpr fun _ => kept.mem_iff

theorem Kept.sessionCount : manager.sessionCount = manager.lru.entries.length := by
  have same := kept.perm.length_eq
  simpa [EapSessionManager.sessionCount, AList.keys, List.keys] using same.symm

theorem Kept.erase {seq : Nat} (member : (seq, id) ∈ manager.lru.entries) :
    (manager.lru.erase seq).entries = manager.lru.entries.filter fun entry => entry.2 ≠ id := by
  have same (entry : Nat × SessionId) (present : entry ∈ manager.lru.entries) : entry.1 = seq ↔ entry.2 = id := by
    refine ⟨fun number => ?_, fun session => ?_⟩
    · rw [eq_of_key_eq present member number]
    · obtain ⟨_, found, own⟩ := (kept.indexed _ _).mp member
      obtain ⟨_, located, number⟩ := (kept.indexed entry.1 entry.2).mp present
      rw [session, found] at located
      cases located
      exact number.symm.trans own
  apply List.filter_congr
  intro entry present
  rw [decide_eq_decide, ne_eq, ne_eq, same entry present]

end

theorem nodup_moveToEnd (id : SessionId) (once : uses.Nodup) : (moveToEnd id uses).Nodup := by
  refine (once.filter _).append (List.nodup_singleton id) ?_
  simp [List.Disjoint]

theorem filter_isLive (same : ∀ other, other ≠ id → after.isLive other = manager.isLive other) :
    (uses.filter (· ≠ id)).filter after.isLive = (uses.filter manager.isLive).filter (· ≠ id) := by
  rw [List.filter_filter, List.filter_filter]
  apply List.filter_congr
  grind

theorem Kept.used (kept : Kept uses clock manager)
    (entries : after.lru.entries = manager.lru.entries.filter (fun entry => entry.2 ≠ id) ++ [(manager.nextSeq, id)])
    (lookup : ∀ other, after.sessions.lookup other = if other = id then some session else manager.sessions.lookup other)
    (number : session.lruSeq = manager.nextSeq) (next : after.nextSeq = manager.nextSeq + 1)
    (limit : after.maxSessions = manager.maxSessions) (recent : clock ≤ session.lastActivity)
    (reached : session.lastActivity ≤ later) : Kept (moveToEnd id uses) later after where
  once := nodup_moveToEnd id kept.once
  indexed := by
    intro seq other
    have indexed := kept.indexed seq other
    rw [entries, lookup]
    grind
  order := by
    have used : after.isLive id = true := by simp [isLive, lookup]
    rw [entries, List.map_append, moveToEnd, List.filter_append, filter_isLive, ← kept.order, List.filter_map]
    · simp [used, Function.comp_def]
    · intro other different
      rw [isLive, lookup, if_neg different, isLive]
  numbered := by
    have started := kept.started
    have numbered := kept.numbered
    grind
  aged := by
    intro first older second newer found located less
    -- The number just handed out is above all others.
    have below (other : SessionId) (present : manager.sessions.lookup other = some newer) :=
      (kept.numbered _ ((kept.indexed _ _).mpr ⟨newer, present, rfl⟩)).2
    have past := kept.past
    have aged := kept.aged
    grind
  past := by
    have past := kept.past
    grind
  started := next ▸ Nat.succ_pos _
  room := limit ▸ kept.room

theorem Kept.missed (kept : Kept uses clock manager) (absent : manager.sessions.lookup id = none) :
    Kept (moveToEnd id uses) clock manager := by
  have dead : manager.isLive id = false := by simp [isLive, absent]
  have order : (moveToEnd id uses).filter manager.isLive = uses.filter manager.isLive := by
    rw [moveToEnd, List.filter_append, List.filter_filter, List.filter_singleton, dead, cond_false,
      List.append_nil]
    apply List.filter_congr
    grind
  exact { kept with once := nodup_moveToEnd id kept.once, order := kept.order.trans order.symm }

theorem Kept.erased (kept : Kept uses clock manager)
    (entries : after.lru.entries = manager.lru.entries.filter fun entry => entry.2 ≠ id)
    (lookup : ∀ other, after.sessions.lookup other = if other = id then none else manager.sessions.lookup other)
    (next : after.nextSeq = manager.nextSeq) (limit : after.maxSessions = manager.maxSessions) :
    Kept uses clock after := by
  have shrinks : after.Shrinks manager := by
    intro other session found
    grind
  refine ⟨kept.once, ?_, ?_, ?_, ?_, ?_, next ▸ kept.started, limit ▸ kept.room⟩
  · intro seq other
    have indexed := kept.indexed seq other
    rw [entries, lookup]
    grind
  · have dead : (uses.filter manager.isLive).filter (· ≠ id) = uses.filter after.isLive := by
      rw [List.filter_filter]
      apply List.filter_congr
      grind [isLive]
    rw [entries, ← dead, ← kept.order, List.filter_map]
    rfl
  · intro entry member
    rw [entries] at member
    rw [next]
    exact kept.numbered entry (List.mem_filter.mp member).1
  · intro first older second newer found located
    exact kept.aged _ _ _ _ (shrinks _ _ found) (shrinks _ _ located)
  · intro other session found
    exact kept.past _ _ (shrinks _ _ found)

theorem modify_eq (manager : EapSessionManager) (id : SessionId) (change : EapSession → EapSession) :
    (manager.modify id change).lru = manager.lru ∧ (manager.modify id change).nextSeq = manager.nextSeq ∧
      (manager.modify id change).maxSessions = manager.maxSessions := by
  unfold modify
  cases manager.sessions.lookup id with
  | none | some session => exact ⟨rfl, rfl, rfl⟩

/-- No session is renumbered, and only the activity time of the session used last
is moved. -/
theorem Kept.modified (kept : Kept uses clock manager) {change : EapSession → EapSession}
    (number : ∀ session, (change session).lruSeq = session.lruSeq)
    (activity : ∀ session, manager.sessions.lookup id = some session →
      (change session).lastActivity = session.lastActivity ∨
        (change session).lastActivity = later ∧ session.lruSeq + 1 = manager.nextSeq)
    (waits : clock ≤ later) : Kept uses later (manager.modify id change) := by
  obtain ⟨lru, next, limit⟩ := modify_eq manager id change
  have before {other : SessionId} {changed : EapSession}
      (found : (manager.modify id change).sessions.lookup other = some changed) :
      ∃ session, manager.sessions.lookup other = some session ∧ changed.lruSeq = session.lruSeq ∧
        (changed.lastActivity = session.lastActivity ∨
          changed.lastActivity = later ∧ session.lruSeq + 1 = manager.nextSeq) := by
    rw [modify_lookup] at found
    split at found
    next same =>
      obtain ⟨session, located, rfl⟩ := Option.map_eq_some_iff.mp found
      exact ⟨session, located, number session, activity session (same ▸ located)⟩
    next => exact ⟨changed, found, rfl, .inl rfl⟩
  have live (other : SessionId) :
      ((manager.modify id change).sessions.lookup other).map EapSession.lruSeq =
        (manager.sessions.lookup other).map EapSession.lruSeq := by
    rw [modify_lookup]
    split
    · simp [Function.comp_def, number]
    · rfl
  refine ⟨kept.once, ?_, ?_, ?_, ?_, ?_, next ▸ kept.started, limit ▸ kept.room⟩
  · intro seq other
    have same := live other
    rw [lru, kept.indexed, ← Option.map_eq_some_iff, ← Option.map_eq_some_iff, same]
  · have same : (manager.modify id change).isLive = manager.isLive := by
      funext other
      simpa [isLive] using congrArg Option.isSome (live other)
    rw [lru, same, kept.order]
  · rw [lru, next]
    exact kept.numbered
  · intro first older second newer found located less
    obtain ⟨old, found, number, activity⟩ := before found
    obtain ⟨new, located, renumber, reactivity⟩ := before located
    rw [number, renumber] at less
    have aged := kept.aged _ _ _ _ found located less
    have past := kept.past _ _ found
    have below := (kept.numbered _ ((kept.indexed _ _).mpr ⟨new, located, rfl⟩)).2
    dsimp only at below
    omega
  · intro other session found
    obtain ⟨old, found, _, activity⟩ := before found
    have past := kept.past _ _ found
    omega

structure Used (manager : EapSessionManager) (uses : List SessionId) (id : SessionId) (now : Nat)
    (after : EapSessionManager) : Prop where
  kept : Kept (moveToEnd id uses) now after
  next : after.nextSeq ≤ manager.nextSeq + 1
  latest : ∀ session, after.sessions.lookup id = some session → session.lruSeq + 1 = after.nextSeq

theorem Kept.touched (kept : Kept uses clock manager) {before : EapSessionManager} {old : EapSession}
    (found : before.sessions.lookup id = some old)
    (others : ∀ other, other ≠ id → before.sessions.lookup other = manager.sessions.lookup other)
    (entries : (before.lru.erase old.lruSeq).entries = manager.lru.entries.filter fun entry => entry.2 ≠ id)
    (next : before.nextSeq = manager.nextSeq) (limit : before.maxSessions = manager.maxSessions)
    (bounded : manager.nextSeq + 1 < 2 ^ 64) (waits : clock ≤ now) :
    Used manager uses id now (before.touch id now) := by
  have counted : (before.nextSeq + 1) % 2 ^ 64 = manager.nextSeq + 1 := by
    rw [next, Nat.mod_eq_of_lt bounded]
  have last : ((before.lru.erase old.lruSeq).insert before.nextSeq id).entries =
      manager.lru.entries.filter (fun entry => entry.2 ≠ id) ++ [(manager.nextSeq, id)] := by
    rw [entries_insert_last, entries, next]
    intro entry member
    rw [entries] at member
    rw [next]
    exact (kept.numbered entry (List.mem_filter.mp member).1).2
  have lookup (other : SessionId) : (before.touch id now).sessions.lookup other =
      if other = id then some (EapSession.updateActivity now { old with lruSeq := before.nextSeq })
      else manager.sessions.lookup other := by
    rw [touch_eq, modify_lookup]
    split
    next same => rw [same, found, Option.map_some]
    next different => exact others other different
  rw [touch, found] at lookup ⊢
  refine ⟨kept.used last lookup next counted limit waits (le_refl now), counted.le, ?_⟩
  intro session located
  rw [lookup, if_pos rfl] at located
  cases located
  rw [counted, ← next]
  rfl

theorem Kept.touch (kept : Kept uses clock manager) (bounded : manager.nextSeq + 1 < 2 ^ 64) (waits : clock ≤ now) :
    Used manager uses id now (manager.touch id now) := by
  cases found : manager.sessions.lookup id with
  | none =>
    rw [EapSessionManager.touch, found]
    refine ⟨(kept.missed found).mono waits, Nat.le_succ _, ?_⟩
    intro session located
    rw [found] at located
    cases located
  | some session =>
    have member := (kept.indexed _ _).mpr ⟨session, found, rfl⟩
    exact kept.touched found (fun _ _ => rfl) (kept.erase member) rfl rfl bounded waits

theorem Kept.createSession (kept : Kept uses clock manager) (bounded : manager.nextSeq + 1 < 2 ^ 64)
    (waits : clock ≤ now) : Used manager uses id now (manager.createSession id now) := by
  rw [EapSessionManager.createSession]
  refine kept.touched (AList.lookup_insert _) (fun _ different => AList.lookup_insert_ne different) ?_ rfl rfl
    bounded waits
  have unnumbered (entries : List (Nat × SessionId)) (within : ∀ entry ∈ entries, entry ∈ manager.lru.entries) :
      entries.filter (fun entry => entry.1 ≠ 0) = entries := by
    apply List.filter_eq_self.mpr
    intro entry member
    exact decide_eq_true (Nat.pos_iff_ne_zero.mp (kept.numbered entry (within entry member)).1)
  change List.filter (fun entry : Nat × SessionId => entry.1 ≠ 0) _ = _
  cases found : manager.sessions.lookup id with
  | none =>
    dsimp only [Option.elim]
    rw [unnumbered _ fun _ member => member]
    symm
    apply List.filter_eq_self.mpr
    intro entry member
    apply decide_eq_true
    intro same
    obtain ⟨session, located, _⟩ := (kept.indexed entry.1 entry.2).mp member
    rw [same, found] at located
    cases located
  | some old =>
    dsimp only [Option.elim]
    have erased := kept.erase ((kept.indexed _ _).mpr ⟨old, found, rfl⟩)
    exact (unnumbered _ fun entry member => (List.mem_filter.mp member).1).trans erased

theorem Used.mutated (used : Used manager uses id now after) (mutation : Mutation) (ordered : now ≤ later) :
    Kept (moveToEnd id uses) later (after.modify id (mutation.apply later)) ∧
      (after.modify id (mutation.apply later)).nextSeq ≤ manager.nextSeq + 1 := by
  refine ⟨used.kept.modified (mutation.lruSeq later) ?_ ordered, (modify_eq after id _).2.1.trans_le used.next⟩
  intro session found
  rcases mutation.lastActivity later session with same | moved
  · exact .inl same
  · exact .inr ⟨moved, used.latest session found⟩

theorem Kept.evictEntry (kept : Kept uses clock manager) {entry : Nat × SessionId}
    (first : manager.lru.entries = entry :: rest) (reason : EvictionReason) (gone : List (SessionId × EvictionReason)) :
    let evicted := evictEntry reason entry (gone, manager)
    evicted.1 = gone ++ [(entry.2, reason)] ∧ evicted.2.lru.entries = rest ∧ Kept uses clock evicted.2 := by
  have member : entry ∈ manager.lru.entries := first ▸ List.mem_cons_self
  obtain ⟨session, found, _⟩ := (kept.indexed entry.1 entry.2).mp member
  have entries := kept.erase member
  refine ⟨?_, ?_, kept.erased entries (Maps.lookup_erase _ _) rfl rfl⟩
  · simp [EapSessionManager.evictEntry, found]
  · have distinct := kept.nodup
    rw [first, List.map_cons, List.nodup_cons] at distinct
    have others : rest.filter (fun other => other.2 ≠ entry.2) = rest := by
      apply List.filter_eq_self.mpr
      intro other present
      apply decide_eq_true
      intro same
      exact distinct.1 (same ▸ List.mem_map_of_mem present)
    change (manager.lru.erase entry.1).entries = rest
    rw [entries, first, List.filter_cons_of_neg (by simp), others]

structure Evicted (uses : List SessionId) (clock : Nat) (reason : EvictionReason) (front : List (Nat × SessionId))
    (before after : List (SessionId × EvictionReason) × EapSessionManager) : Prop where
  kept : Kept uses clock after.2
  reported : after.1 = before.1 ++ front.map fun entry => (entry.2, reason)
  entries : before.2.lru.entries = front ++ after.2.lru.entries
  limit : after.2.maxSessions = before.2.maxSessions
  next : after.2.nextSeq = before.2.nextSeq

section

variable (kept : Kept uses clock manager)

include kept

theorem Evicted.refl (reason : EvictionReason) :
    Evicted uses clock reason [] (gone, manager) (gone, manager) :=
  ⟨kept, (List.append_nil _).symm, rfl, rfl, rfl⟩

theorem Evicted.cons {gone : List (SessionId × EvictionReason)} {entry : Nat × SessionId}
    {rest front : List (Nat × SessionId)} {reason : EvictionReason}
    {last : List (SessionId × EvictionReason) × EapSessionManager}
    (first : manager.lru.entries = entry :: rest)
    (evicted : Evicted uses clock reason front (EapSessionManager.evictEntry reason entry (gone, manager)) last) :
    Evicted uses clock reason (entry :: front) (gone, manager) last := by
  obtain ⟨reported, entries, _⟩ := kept.evictEntry first reason gone
  refine ⟨evicted.kept, ?_, ?_, evicted.limit, evicted.next⟩
  · rw [evicted.reported, reported, List.append_assoc]
    rfl
  · rw [first, ← entries, evicted.entries]
    rfl

theorem Kept.evictEntries (reason : EvictionReason) {front : List (Nat × SessionId)}
    (first : manager.lru.entries = front ++ rest) :
    Evicted uses clock reason front (gone, manager)
      (front.foldl (fun evicted entry => EapSessionManager.evictEntry reason entry evicted) (gone, manager)) := by
  induction front generalizing gone manager with
  | nil => exact .refl kept reason
  | cons entry front ih =>
    have next := kept.evictEntry first reason gone
    exact .cons kept first (ih next.2.2 next.2.1)

theorem Kept.evictCapacity (rounds : Nat)
    (enough : manager.lru.entries.length ≤ rounds) :
    Evicted uses clock .capacity
      (manager.lru.entries.take (manager.lru.entries.length + 1 - manager.maxSessions)) (gone, manager)
      (EapSessionManager.evictCapacity rounds (gone, manager)) := by
  have count := kept.sessionCount
  rw [EapSessionManager.sessionCount] at count
  have room := kept.room
  induction rounds generalizing gone manager with
  | zero =>
    rw [show manager.lru.entries.length + 1 - manager.maxSessions = 0 by omega]
    exact .refl kept .capacity
  | succ rounds ih =>
    rw [EapSessionManager.evictCapacity]
    dsimp only
    split
    next fits =>
      rw [show manager.lru.entries.length + 1 - manager.maxSessions = 0 by omega]
      exact .refl kept .capacity
    next full =>
      cases first : manager.lru.entries with
      | nil =>
        rw [first, List.length_nil] at count
        omega
      | cons entry rest =>
        rw [first, List.length_cons] at count enough
        have next : manager.nextEvicted = some entry := by
          obtain ⟨others, popped⟩ := popFirst_of_cons first
          rw [nextEvicted, popped]
        rw [next, List.length_cons,
          show rest.length + 1 + 1 - manager.maxSessions = rest.length + 1 - manager.maxSessions + 1 by omega,
          List.take_succ_cons]
        obtain ⟨_, entries, still⟩ := kept.evictEntry first .capacity gone
        apply Evicted.cons kept first
        have evicted := @ih _ (EapSessionManager.evictEntry .capacity entry (gone, manager)).1 still
          (entries ▸ Nat.le_of_succ_le_succ enough) still.sessionCount still.room
        rwa [entries] at evicted

theorem Kept.staleEntries (now : Nat) :
    manager.staleEntries now = manager.lru.entries.filter (fun entry => manager.isIdle now entry.2) ∧
      manager.lru.entries = manager.staleEntries now ++
        manager.lru.entries.filter fun entry => !manager.isIdle now entry.2 := by
  let stale (entry : Nat × SessionId) : Bool :=
    (manager.sessions.lookup entry.2).elim true (·.isTimedOutAt now manager.defaultTimeout)
  have test (entry : Nat × SessionId) (member : entry ∈ manager.lru.entries) :
      stale entry = manager.isIdle now entry.2 := by
    obtain ⟨session, found, _⟩ := (kept.indexed entry.1 entry.2).mp member
    simp [stale, isIdle, found]
  have first : manager.lru.entries.Pairwise fun earlier later => stale later = true → stale earlier = true := by
    apply manager.lru.sorted.imp_of_mem
    intro earlier later member present less idle
    obtain ⟨older, found, number⟩ := (kept.indexed earlier.1 earlier.2).mp member
    obtain ⟨newer, located, renumber⟩ := (kept.indexed later.1 later.2).mp present
    have aged := kept.aged _ _ _ _ found located (by omega)
    simp only [stale, found, located, Option.elim, EapSession.isTimedOutAt, decide_eq_true_eq] at idle ⊢
    omega
  obtain ⟨taken, dropped⟩ := takeWhile_eq_filter first
  refine ⟨taken.trans (List.filter_congr test), ?_⟩
  have busy := List.filter_congr fun entry member => congrArg Bool.not (test entry member)
  rw [← busy, ← dropped]
  exact List.takeWhile_append_dropWhile.symm

theorem Kept.evictIdleAt (now : Nat) :
    Evicted uses clock .idle (manager.staleEntries now) ([], manager) (manager.evictIdleAt now) :=
  kept.evictEntries .idle (kept.staleEntries now).2

theorem Kept.evictAt (now : Nat) :
    let idle := manager.evictIdleAt now
    Evicted uses clock .capacity (idle.2.lru.entries.take (idle.2.lru.entries.length + 1 - idle.2.maxSessions)) idle
      (manager.evictAt now) :=
  (kept.evictIdleAt now).kept.evictCapacity _ (Nat.le_add_right _ _)

theorem Kept.busy (now : Nat) :
    (manager.evictIdleAt now).2.lru.entries.map Prod.snd =
      (uses.filter manager.isLive).filter fun id => !manager.isIdle now id := by
  have split := (kept.evictIdleAt now).entries.symm.trans (kept.staleEntries now).2
  rw [List.append_cancel_left split, ← kept.order, List.filter_map]
  rfl

end

theorem Kept.lookup_eq (kept : Kept uses clock after) (shrinks : after.Shrinks manager) (id : SessionId) :
    after.sessions.lookup id =
      if id ∈ after.lru.entries.map Prod.snd then manager.sessions.lookup id else none := by
  cases found : after.sessions.lookup id with
  | none => rw [if_neg (mt kept.mem_iff.mp (AList.lookup_eq_none.mp found))]
  | some session =>
    have live : id ∈ after.sessions := AList.lookup_isSome.mp (Option.isSome_of_eq_some found)
    rw [if_pos (kept.mem_iff.mpr live), shrinks id session found]

theorem Kept.evictIdleAt_exact (kept : Kept uses clock manager) (now : Nat) :
    (manager.evictIdleAt now).1 =
        ((uses.filter manager.isLive).filter (manager.isIdle now)).map (fun id => (id, .idle)) ∧
      ∀ id, (manager.evictIdleAt now).2.sessions.lookup id =
        (manager.sessions.lookup id).filter fun session => !session.isTimedOutAt now manager.defaultTimeout := by
  have evicted := kept.evictIdleAt now
  refine ⟨?_, ?_⟩
  · rw [evicted.reported, (kept.staleEntries now).1, ← kept.order, List.filter_map, List.map_map]
    rfl
  · intro id
    rw [evicted.kept.lookup_eq (evictIdleAt_evicts manager now).shrinks, kept.busy, ← kept.order]
    cases found : manager.sessions.lookup id with
    | none => exact ite_self _
    | some session =>
      have live := kept.mem_iff.mpr (AList.lookup_isSome.mp (Option.isSome_of_eq_some found))
      simp only [List.mem_filter, live, isIdle, found, Option.any_some, true_and, Option.filter_some]

theorem Kept.evictAt_exact (kept : Kept uses clock manager) (now : Nat) :
    (manager.evictAt now).2.sessionCount < manager.maxSessions ∧
      let busy := (uses.filter manager.isLive).filter fun id => !manager.isIdle now id
      ∀ id, (manager.evictAt now).2.sessions.lookup id =
        if id ∈ busy.drop (busy.length + 1 - manager.maxSessions) then manager.sessions.lookup id else none := by
  have evicted := kept.evictAt now
  have left := evicted.entries
  rw [(kept.evictIdleAt now).limit] at left
  dsimp only at left
  have entries := List.append_cancel_left ((List.take_append_drop _ _).trans left)
  have room := kept.room
  refine ⟨?_, ?_⟩
  · rw [evicted.kept.sessionCount, ← entries, List.length_drop]
    omega
  · intro busy id
    rw [evicted.kept.lookup_eq (evictAt_evicts manager now).shrinks, ← entries, List.map_drop, kept.busy,
      ← List.length_map Prod.snd, kept.busy]

theorem Kept.claimResponse (kept : Kept uses clock manager) (id : SessionId) (binding : Octets) (identifier : UInt8) :
    Kept uses clock (manager.claimResponse id binding identifier).2 ∧
      (manager.claimResponse id binding identifier).2.nextSeq = manager.nextSeq := by
  unfold EapSessionManager.claimResponse
  split
  · exact ⟨kept, rfl⟩
  · split
    · exact ⟨kept, rfl⟩
    · split
      · exact ⟨kept, rfl⟩
      · exact ⟨kept.modified (fun _ => rfl) (fun _ _ => .inl rfl) (le_refl _), (modify_eq _ _ _).2.1⟩

theorem Kept.removeSession (kept : Kept uses clock manager) (id : SessionId) :
    Kept uses clock (manager.removeSession id) ∧ (manager.removeSession id).nextSeq = manager.nextSeq := by
  unfold EapSessionManager.removeSession
  split
  · exact ⟨kept, rfl⟩
  next session found =>
    exact ⟨kept.erased (kept.erase ((kept.indexed _ _).mpr ⟨session, found, rfl⟩)) (Maps.lookup_erase _ _) rfl rfl, rfl⟩

theorem Kept.perform (kept : Kept uses clock manager) (call : Call) (waits : clock ≤ call.now)
    (bounded : manager.nextSeq + (if call.uses.isSome then 1 else 0) < 2 ^ 64) :
    Kept (call.uses.elim uses fun id => moveToEnd id uses) call.later (call.perform manager) ∧
      (call.perform manager).nextSeq ≤ manager.nextSeq + if call.uses.isSome then 1 else 0 := by
  obtain ⟨operation, now, later, ordered⟩ := call
  have still := kept.mono (waits.trans ordered)
  cases operation with
  | create id mutation => exact (kept.createSession bounded waits).mutated mutation ordered
  | get id => exact ⟨still, le_refl _⟩
  | getMut id mutation => exact (kept.touch bounded waits).mutated mutation ordered
  | touch id =>
    have used : Used manager uses id now (manager.touch id now) := kept.touch bounded waits
    exact ⟨used.kept.mono ordered, used.next⟩
  | claim id binding identifier =>
    have claimed := still.claimResponse id binding identifier
    exact ⟨claimed.1, claimed.2.le⟩
  | remove id =>
    have removed := still.removeSession id
    exact ⟨removed.1, removed.2.le⟩
  | evictIdle asOf =>
    have evicted := still.evictIdleAt asOf
    exact ⟨evicted.kept, evicted.next.le⟩
  | evict asOf =>
    have evicted := still.evictAt asOf
    exact ⟨evicted.kept, (evicted.next.trans (still.evictIdleAt asOf).next).le⟩

theorem Kept.run {calls : List Call} (kept : Kept uses clock manager) (timely : Timely clock calls)
    (bounded : manager.nextSeq + calls.countP (·.uses.isSome) < 2 ^ 64) :
    ∃ reached, Kept (calls.foldl (fun uses call => call.uses.elim uses fun id => moveToEnd id uses) uses) reached
      (EapSessionManager.run calls manager) := by
  induction calls generalizing uses clock manager with
  | nil => exact ⟨clock, kept⟩
  | cons call rest ih =>
    rw [List.countP_cons] at bounded
    obtain ⟨still, next⟩ := kept.perform call timely.1 (by omega)
    have rest : (call.perform manager).nextSeq + rest.countP (·.uses.isSome) < 2 ^ 64 := by omega
    exact ih still timely.2 rest

end Kept

/-- While the sequence numbers last, the index holds the live sessions by their
last use, and eviction is exact. -/
theorem sessionStore_exact (timeout maxSessions : Nat) (calls : List Call) (timely : Timely 0 calls)
    (fewer : calls.countP (·.uses.isSome) < 2 ^ 64 - 1) :
    let manager := run calls (withConfig timeout maxSessions)
    let order := (lastUses calls).filter manager.isLive
    (manager.lru.entries.map Prod.snd = order ∧ order.Perm manager.sessions.keys) ∧
    (∀ now, (manager.evictIdleAt now).1 = (order.filter (manager.isIdle now)).map (fun id => (id, .idle)) ∧
      ∀ id, (manager.evictIdleAt now).2.sessions.lookup id =
        (manager.sessions.lookup id).filter fun session => !session.isTimedOutAt now manager.defaultTimeout) ∧
    ∀ now, (manager.evictAt now).2.sessionCount < manager.maxSessions ∧
      let busy := order.filter fun id => !manager.isIdle now id
      ∀ id, (manager.evictAt now).2.sessions.lookup id =
        if id ∈ busy.drop (busy.length + 1 - manager.maxSessions) then manager.sessions.lookup id else none := by
  intro manager order
  obtain ⟨clock, kept⟩ := (kept_withConfig timeout maxSessions).run timely (by
    change 1 + _ < 2 ^ 64
    omega)
  have perm := kept.perm
  rw [kept.order] at perm
  exact ⟨⟨kept.order, perm⟩, kept.evictIdleAt_exact, kept.evictAt_exact⟩

section Sample

variable {touches : Nat} {manager : EapSessionManager}

def Mutation.nextIdentifier : Mutation where
  apply := fun now session => (session.nextIdentifier now).2
  lruSeq := fun _ _ => rfl
  lastActivity := fun _ _ => .inr rfl

/-- A call that takes no time. -/
def sampleCall (now : Nat) (operation : Operation) : Call :=
  ⟨operation, now, now, Nat.le_refl now⟩

def sampleCalls : List Call :=
  [sampleCall 1 (.create "a" .nextIdentifier), sampleCall 2 (.create "b" .nextIdentifier),
    sampleCall 5 (.getMut "a" .nextIdentifier), sampleCall 7 (.create "c" .nextIdentifier)]

/-- The session used last stays. -/
theorem sampleCalls_exact :
    (run sampleCalls (withConfig 10 2)).lru.entries.map Prod.snd = ["b", "a", "c"] ∧
      ((run sampleCalls (withConfig 10 2)).evictAt 13).2.sessions.lookup "a" = none := by
  have exact := sessionStore_exact 10 2 sampleCalls (by simp [sampleCalls, sampleCall, Timely]) (by decide)
  exact ⟨exact.1.1.trans (by decide), (exact.2.2 13).2 "a"⟩

/-- The numbers start again at 0 and reach that of a session never used since. -/
def wrappingCalls (touches : Nat) : List Call :=
  sampleCall 0 (.create "a" .nextIdentifier) :: sampleCall 0 (.create "b" .nextIdentifier) ::
    List.replicate (touches + 1) (sampleCall 0 (.touch "b"))

/-- Only "b" was touched since the two sessions were created. -/
structure Overtaking (touches : Nat) (manager : EapSessionManager) : Prop where
  next : manager.nextSeq = (3 + touches) % 2 ^ 64
  waits : "a" ∈ manager.sessions
  busy : "b" ∈ manager.sessions
  alone : ∀ entry ∈ manager.lru.entries, entry.2 = "a" → entry.1 = 1

theorem Overtaking.touch (overtaking : Overtaking touches manager) :
    Overtaking (touches + 1) (manager.touch "b" 0) ∧
      (manager.nextSeq, "b") ∈ (manager.touch "b" 0).lru.entries := by
  obtain ⟨session, found⟩ := Option.isSome_iff_exists.mp (AList.lookup_isSome.mpr overtaking.busy)
  rw [EapSessionManager.touch, found]
  refine ⟨⟨?_, ?_, ?_, ?_⟩, mem_insert_self _ _ _⟩
  · dsimp only
    rw [overtaking.next]
    omega
  · exact (AList.mem_insert _).mpr (.inr overtaking.waits)
  · exact (AList.mem_insert _).mpr (.inl rfl)
  · intro entry member own
    rcases key_of_mem_insertEntry member with new | old
    · rw [new] at own
      exact absurd (show "b" = "a" from own) (by decide)
    · exact overtaking.alone entry (List.mem_filter.mp old).1 own

theorem Overtaking.run (overtaking : Overtaking touches manager) (count : Nat) :
    Overtaking (touches + count)
      (EapSessionManager.run (List.replicate count (sampleCall 0 (.touch "b"))) manager) := by
  induction count generalizing touches manager with
  | zero => exact overtaking
  | succ count ih =>
    have later := ih overtaking.touch.1
    rwa [Nat.add_right_comm, Nat.add_assoc] at later

theorem Overtaking.overwrites (overtaking : Overtaking touches manager) (wraps : (3 + touches) % 2 ^ 64 = 1) :
    ¬ ((manager.touch "b" 0).lru.entries.map Prod.snd).Perm (manager.touch "b" 0).sessions.keys := by
  obtain ⟨after, inserted⟩ := overtaking.touch
  rw [overtaking.next, wraps] at inserted
  intro perm
  obtain ⟨entry, member, own⟩ := List.mem_map.mp (perm.mem_iff.mpr after.waits)
  have same := eq_of_key_eq member inserted (after.alone entry member own)
  rw [same] at own
  exact absurd (show "b" = "a" from own) (by decide)

theorem wrappingCalls_overwrite (wraps : (3 + touches) % 2 ^ 64 = 1) :
    ¬ ((run (wrappingCalls touches) (withConfig 10 2)).lru.entries.map Prod.snd).Perm
      (run (wrappingCalls touches) (withConfig 10 2)).sessions.keys := by
  have start : Overtaking 0 (run [sampleCall 0 (.create "a" .nextIdentifier),
      sampleCall 0 (.create "b" .nextIdentifier)] (withConfig 10 2)) :=
    ⟨by decide, by decide, by decide, by decide⟩
  have overwritten := (start.run touches).overwrites (by rwa [Nat.zero_add])
  rw [wrappingCalls, List.replicate_succ', run]
  simp only [List.foldl_cons, List.foldl_append]
  exact overwritten

theorem wrappingCalls_timely (touches : Nat) : Timely 0 (wrappingCalls touches) := by
  have rest (count : Nat) : Timely 0 (List.replicate count (sampleCall 0 (.touch "b"))) := by
    induction count with
    | zero => exact trivial
    | succ count ih => exact ⟨Nat.le_refl 0, ih⟩
  exact ⟨Nat.le_refl 0, Nat.le_refl 0, rest _⟩

/-- After 2⁶⁴ numbers a session that is still there is no longer in the index. -/
theorem sessionStore_overwritten :
    Timely 0 (wrappingCalls (2 ^ 64 - 2)) ∧
      ¬ ((run (wrappingCalls (2 ^ 64 - 2)) (withConfig 10 2)).lru.entries.map Prod.snd).Perm
        (run (wrappingCalls (2 ^ 64 - 2)) (withConfig 10 2)).sessions.keys :=
  ⟨wrappingCalls_timely _, wrappingCalls_overwrite (by omega)⟩

end Sample

end EapSessionManager

end UsgRadius.Eap
