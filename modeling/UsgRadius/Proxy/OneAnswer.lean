import UsgRadius.Proxy.Progress
import UsgRadius.Proxy.Programs
import Mathlib.Data.Set.Insert

namespace UsgRadius.Proxy

open Data

/-! How many answers a forwarded request can get when its tasks interleave. -/

/-! ## The keys of the proxy, abstractly -/

/-- What the proxy's state says about Proxy-State keys. -/
structure Ledger where
  cached : Set ProxyStateKey
  answers : ProxyStateKey → Nat
  issued : Nat

def World.ledger (world : World) : Ledger where
  cached := { key | key ∈ world.cache }
  answers := fun key => (repliesTo key world).length
  issued := world.counter

namespace Ledger

def store (ledger : Ledger) (key : ProxyStateKey) : Ledger :=
  { ledger with cached := insert key ledger.cached }

def remove (ledger : Ledger) (key : ProxyStateKey) : Ledger :=
  { ledger with cached := ledger.cached \ {key} }

def answer (ledger : Ledger) (key : ProxyStateKey) : Ledger :=
  { ledger with answers := fun other => if other = key then ledger.answers other + 1 else ledger.answers other }

def issue (ledger : Ledger) : Ledger :=
  { ledger with issued := ledger.issued + 1 }

end Ledger

/-- The steps of a task that keeps to its protocol, beside tasks in the given
phases. A response takes an entry only if no retry is about to remove it, and a
retry rejects a request only while it is in the cache. -/
inductive Moves (others : List Phase) : Ledger → Phase → Ledger → Phase → Prop
  | silent {ledger : Ledger} {phase : Phase} : Moves others ledger phase ledger phase
  | issue {ledger : Ledger} {key : ProxyStateKey} (index : issuedAt key = ledger.issued) :
      Moves others ledger .forwarding ledger.issue (.holding key)
  | store {ledger : Ledger} {key : ProxyStateKey} : Moves others ledger (.holding key) (ledger.store key) .idle
  | refuse {ledger : Ledger} {key : ProxyStateKey} : Moves others ledger (.holding key) ledger .idle
  | take {ledger : Ledger} {key : ProxyStateKey} (present : key ∈ ledger.cached)
      (unclaimed : .removing key ∉ others) :
      Moves others ledger .responding (ledger.remove key) (.replying key)
  | miss {ledger : Ledger} : Moves others ledger .responding ledger .idle
  | reply {ledger : Ledger} {key : ProxyStateKey} : Moves others ledger (.replying key) (ledger.answer key) .idle
  | fail {ledger : Ledger} {key : ProxyStateKey} : Moves others ledger (.replying key) ledger .idle
  | reject {ledger : Ledger} {key : ProxyStateKey} (present : key ∈ ledger.cached) :
      Moves others ledger .retrying (ledger.answer key) (.removing key)
  | remove {ledger : Ledger} {key : ProxyStateKey} :
      Moves others ledger (.removing key) (ledger.remove key) .retrying
  | clean {ledger : Ledger} {key : ProxyStateKey} : Moves others ledger .cleaning (ledger.remove key) .cleaning

/-- The rights to answer a key that a task holds: it is about to store the key,
or has taken it out of the cache to answer it. -/
def Phase.rights : Phase → ProxyStateKey → Nat
  | .holding own, key => if key = own then 1 else 0
  | .replying own, key => if key = own then 1 else 0
  | _, _ => 0

def spent (ledger : Ledger) (phases : List Phase) (key : ProxyStateKey) : Nat :=
  (phases.map (·.rights key)).sum + ledger.answers key

@[grind =] theorem spent_cons (ledger : Ledger) (phase : Phase) (others : List Phase) (key : ProxyStateKey) :
    spent ledger (phase :: others) key = phase.rights key + spent ledger others key := by
  simp only [spent, List.map_cons, List.sum_cons, Nat.add_assoc]

section Ledger

variable (ledger : Ledger) (phases : List Phase) (own key : ProxyStateKey)

@[grind =] theorem spent_store : spent (ledger.store own) phases key = spent ledger phases key := rfl

@[grind =] theorem spent_remove : spent (ledger.remove own) phases key = spent ledger phases key := rfl

@[grind =] theorem spent_issue : spent ledger.issue phases key = spent ledger phases key := rfl

@[grind =] theorem spent_answer :
    spent (ledger.answer own) phases key = spent ledger phases key + if key = own then 1 else 0 := by
  grind [spent, Ledger.answer]

@[grind =] theorem cached_store : key ∈ (ledger.store own).cached ↔ key = own ∨ key ∈ ledger.cached := .rfl

@[grind =] theorem cached_remove : key ∈ (ledger.remove own).cached ↔ key ∈ ledger.cached ∧ key ≠ own := .rfl

@[grind =] theorem cached_answer : key ∈ (ledger.answer own).cached ↔ key ∈ ledger.cached := .rfl

@[grind =] theorem cached_issue : key ∈ ledger.issue.cached ↔ key ∈ ledger.cached := .rfl

end Ledger

/-- There is at most one right to answer a key, and none outside the cache while
the key is in it, unless its removal after a reject is pending. -/
structure Accounted (ledger : Ledger) (phases : List Phase) (key : ProxyStateKey) : Prop where
  once : spent ledger phases key ≤ 1
  stored : key ∈ ledger.cached → .removing key ∉ phases → spent ledger phases key = 0
  issued : spent ledger phases key ≠ 0 ∨ key ∈ ledger.cached → issuedAt key < ledger.issued

variable {key : ProxyStateKey}

theorem Accounted.perm {ledger : Ledger} {left right : List Phase} (accounted : Accounted ledger left key)
    (perm : left.Perm right) : Accounted ledger right key := by
  have same : spent ledger left key = spent ledger right key := by
    rw [spent, spent, (perm.map _).sum_eq]
  refine ⟨same ▸ accounted.once, ?_, same ▸ accounted.issued⟩
  intro cached unclaimed
  rw [← same]
  exact accounted.stored cached (fun pending => unclaimed (perm.mem_iff.mp pending))

section Moves

variable {others : List Phase} {before after : Ledger} {phase next : Phase} {key : ProxyStateKey}

theorem Moves.accounted (move : Moves others before phase after next)
    (alone : phase = .retrying → ∀ key, .removing key ∉ others)
    (accounted : Accounted before (phase :: others) key) : Accounted after (next :: others) key := by
  obtain ⟨once, stored, issued⟩ := accounted
  have counted : before.issue.issued = before.issued + 1 := rfl
  have kept (own : ProxyStateKey) : (before.store own).issued = before.issued ∧ (before.remove own).issued = before.issued ∧
      (before.answer own).issued = before.issued := ⟨rfl, rfl, rfl⟩
  -- A key that is issued only now is known nowhere; one that is taken or rejected was stored, and
  -- nobody had a right to it.
  cases move <;> refine ⟨?_, ?_, ?_⟩ <;> grind [Phase.rights]

theorem Moves.gone (move : Moves others before phase after next) (accounted : Accounted before (phase :: others) key)
    (gone : before.answers key ≠ 0 ∧ key ∉ before.cached) : after.answers key ≠ 0 ∧ key ∉ after.cached := by
  have once := accounted.once
  cases move with
  | store => exact ⟨gone.1, by grind [Phase.rights, spent]⟩
  | reply | reject => grind [Ledger.answer]
  | take | remove | clean => exact ⟨gone.1, fun member => gone.2 member.1⟩
  | silent | issue | refuse | miss | fail => exact gone

theorem Accounted.started {ledger : Ledger} (accounted : Accounted ledger others key) (task : Task) :
    Accounted ledger (task.first :: others) key := by
  obtain ⟨once, stored, issued⟩ := accounted
  cases task <;> refine ⟨?_, ?_, ?_⟩ <;> grind [Phase.rights, Task.first]

theorem Accounted.finished {ledger : Ledger} (accounted : Accounted ledger (phase :: others) key)
    (rests : phase.rests) : Accounted ledger others key := by
  obtain ⟨once, stored, issued⟩ := accounted
  have other : phase ≠ .removing key := fun removing => by cases removing ▸ rests
  refine ⟨?_, ?_, ?_⟩ <;> grind

end Moves

/-- The key a program is about to remove from the cache. -/
def nextRemoval : Program Effect Fault Unit → Option ProxyStateKey
  | .perform (.cacheRemove key) _ => some key
  | _ => none

/-- Timeout handling and response handling do not overlap on a key: a retry
sends a reject for a key and stores its entry again only while the key is in the
cache, and a response does not take an entry between a reject and the removal
that follows it. Also, the counter of Proxy-State keys has not wrapped around. -/
def separateHandling : Guard Effect Fault Task World := fun pool task _ effect =>
  match effect with
  | .nextProxyState => decide (pool.world.counter < 2 ^ 64)
  | .cacheInsert entry => !task.isRetry || decide (entry.proxyState ∈ pool.world.cache)
  | .nasSend reply => !task.isRetry || decide (reply.proxyState ∈ pool.world.cache)
  | .cacheRemove key => !task.isRespond ||
      pool.threads.all fun thread => !(thread.task.isRetry && nextRemoval thread.program == some key)
  | _ => true

def Task.owns : Task → Phase → Bool
  | .forward _ _ _ _, .forwarding => true
  | .forward _ _ _ _, .holding _ => true
  | .forward _ _ _ _, .idle => true
  | .respond _ _, .responding => true
  | .respond _ _, .replying _ => true
  | .respond _ _, .idle => true
  | .retry, .retrying => true
  | .retry, .removing _ => true
  | .cleanup, .cleaning => true
  | _, _ => false

variable {task : Task}

theorem owns_retrying (owns : task.owns .retrying = true) : task = .retry := by
  cases task <;> first | rfl | cases owns

theorem owns_removing (owns : task.owns (.removing key) = true) : task = .retry := by
  cases task <;> first | rfl | cases owns

theorem owns_responding (owns : task.owns .responding = true) : task.isRespond = true := by
  cases task <;> first | rfl | cases owns

section Refinement

variable {task : Task} {phase : Phase} {others : List Phase} {before after : World} {Answer : Type}
  {effect : Effect Answer} {answer : Answer}

theorem ledger_silent (silent : Effect.Silent Answer effect)
    (performed : Performs True Answer effect before answer after) : after.ledger = before.ledger := by
  cases effect with
  | nextProxyState | cacheInsert entry | cacheRemove key | nasSend reply => cases silent
  | cacheGet key | cacheTimedOut timeout | cacheExpired ttl => rw [performed.2]
  | recordResponse server =>
    obtain ⟨now, rfl⟩ := performed
    rfl
  | _ =>
    cases performed
    rfl

theorem ledger_erase (world : World) (key : ProxyStateKey) :
    World.ledger { world with cache := world.cache.erase key } = world.ledger.remove key := by
  simp only [World.ledger, Ledger.remove, AList.mem_erase, repliesTo, Ledger.mk.injEq, and_true]
  ext other
  exact and_comm

theorem ledger_reply (world : World) (reply : Reply) :
    World.ledger { world with replies := reply :: world.replies } = world.ledger.answer reply.proxyState := by
  simp only [World.ledger, Ledger.answer, repliesTo, Ledger.mk.injEq, and_true, true_and]
  funext key
  by_cases same : key = reply.proxyState
  · rw [if_pos same, List.filter_cons_of_pos (by simp [same]), List.length_cons]
  · rw [if_neg same, List.filter_cons_of_neg (by simpa using Ne.symm same)]

theorem Phase.silent (rests : phase.rests) (silent : Effect.Silent Answer effect) :
    phase.permits Answer effect ∧ ∀ answer, phase.advance Answer effect answer = phase := by
  cases phase with
  | removing key => cases rests
  | _ => cases effect <;> first | exact ⟨trivial, fun _ => rfl⟩ | cases silent

theorem performs_moves {pool : Pool Effect Fault Task World} (owns : task.owns phase = true)
    (pending : ∀ key, .removing key ∈ others →
      ∃ thread ∈ pool.threads, thread.task.isRetry = true ∧ nextRemoval thread.program = some key)
    (permits : phase.permits Answer effect) (allowed : separateHandling pool task Answer effect = true)
    (performed : Performs True Answer effect pool.world answer after) :
    Moves others pool.world.ledger phase after.ledger (phase.advance Answer effect answer) := by
  by_cases silent : Effect.Silent Answer effect
  · have rests : phase.rests := by
      cases phase with
      | removing key =>
        cases effect with
        | cacheRemove removed => cases silent
        | _ => cases permits
      | _ => trivial
    rw [(phase.silent rests silent).2, ledger_silent silent performed]
    exact .silent
  cases effect with
  | nextProxyState =>
    obtain ⟨⟨nanos, rfl⟩, rfl⟩ := performed
    cases phase with
    | forwarding => exact .issue (issuedAt_proxyStateKey nanos (of_decide_eq_true allowed))
    | _ => cases permits
  | cacheInsert entry =>
    have stores : after.ledger = pool.world.ledger ∨ after.ledger = pool.world.ledger.store entry.proxyState := by
      cases answer with
      | error reason => exact .inl (by rw [(World.insert_error performed).2])
      | ok _ =>
        rw [(World.insert_ok performed).2]
        exact .inr (by simp only [World.ledger, Ledger.store, AList.mem_insert, repliesTo]; rfl)
    cases phase with
    | holding key =>
      obtain rfl : entry.proxyState = key := permits
      rcases stores with same | stored
      · rw [same]
        exact .refuse
      · rw [stored]
        exact .store
    | retrying =>
      -- The entry is still there, so storing it again changes no key.
      obtain rfl := owns_retrying owns
      have present : entry.proxyState ∈ pool.world.cache := of_decide_eq_true allowed
      have same : after.ledger = pool.world.ledger := by
        rcases stores with same | stored
        · exact same
        · rw [stored, Ledger.store, Set.insert_eq_of_mem (show _ ∈ pool.world.ledger.cached from present)]
      rw [same]
      exact .silent
    | _ => cases permits
  | cacheRemove key =>
    have erases : after.ledger = pool.world.ledger.remove key := by
      cases performed
      exact ledger_erase pool.world key
    have found : answer = pool.world.cache.lookup key := congrArg Prod.fst performed
    rw [erases]
    cases phase with
    | responding =>
      cases answer with
      | none =>
        have absent : key ∉ pool.world.ledger.cached := AList.lookup_eq_none.mp found.symm
        rw [Ledger.remove, Set.sdiff_singleton_eq_self absent]
        exact .miss
      | some entry =>
        have present : key ∈ pool.world.ledger.cached := AList.lookup_isSome.mp (by rw [← found]; rfl)
        refine .take present ?_
        intro claimed
        obtain ⟨thread, member, retries, removes⟩ := pending key claimed
        simp only [separateHandling, owns_responding owns, Bool.not_true, Bool.false_or,
          List.all_eq_true] at allowed
        have free := allowed thread member
        simp [retries, removes] at free
    | removing own =>
      obtain rfl : key = own := permits
      exact .remove
    | cleaning => exact .clean
    | _ => cases permits
  | nasSend reply =>
    cases answer with
    | true =>
      have sent : after = { pool.world with replies := reply :: pool.world.replies } := performed
      rw [sent, ledger_reply]
      cases phase with
      | replying key =>
        obtain rfl : reply.proxyState = key := permits
        exact .reply
      | retrying =>
        obtain rfl := owns_retrying owns
        have present : reply.proxyState ∈ pool.world.cache := of_decide_eq_true allowed
        exact .reject present
      | _ => cases permits
    | false =>
      have unsent : after = pool.world := performed.2
      rw [unsent]
      cases phase with
      | replying key => exact .fail
      | retrying => exact .silent
      | _ => cases permits
  | _ => exact absurd trivial silent

theorem owns_advance {ledger later : Ledger} {next : Phase} (move : Moves others ledger phase later next)
    (owns : task.owns phase = true) : task.owns next = true := by
  cases move with
  | silent => exact owns
  | _ => cases task <;> first | rfl | cases owns

theorem nextRemoval_of_conforms {program : Program Effect Fault Unit}
    (conforms : lifecycle.Conforms (.removing key) program) : nextRemoval program = some key := by
  cases program with
  | done outcome => cases conforms
  | perform effect next =>
    have permits : Phase.permits (.removing key) _ effect := conforms.1
    cases effect with
    | cacheRemove removed =>
      obtain rfl : removed = key := permits
      rfl
    | _ => cases permits

end Refinement

structure Safe (world : World) (labels : List (Task × Phase)) : Prop where
  accounted : ∀ key, Accounted world.ledger (labels.map Prod.snd) key
  owned : ∀ label ∈ labels, label.1.owns label.2 = true
  alone : labels.countP (·.1.isRetry) ≤ 1

section Interleavings

variable {digests : Digests} {settings : Settings} {left right : List (Task × Phase)} {world : World} {task : Task}
  {phase : Phase}

theorem Safe.initial (maxEntries : UInt64) : Safe (World.initial maxEntries) [] where
  accounted := fun key => by
    have none : spent (World.initial maxEntries).ledger [] key = 0 := rfl
    refine ⟨none.trans_le (Nat.zero_le _), fun _ _ => none, ?_⟩
    intro known
    rcases known with some | present
    · exact absurd none some
    · exact absurd present (AList.notMem_empty key)
  owned := fun _ member => by cases member
  alone := Nat.zero_le _

theorem phases_perm (left right : List (Task × Phase)) (task : Task) (phase : Phase) :
    ((left ++ (task, phase) :: right).map Prod.snd).Perm (phase :: (left ++ right).map Prod.snd) := by
  rw [List.map_append, List.map_append, List.map_cons]
  exact List.perm_middle

theorem Safe.unclaimed (safe : Safe world (left ++ (task, phase) :: right)) (retrying : phase = .retrying)
    (key : ProxyStateKey) : .removing key ∉ (left ++ right).map Prod.snd := by
  intro claimed
  obtain ⟨⟨other, _⟩, member, rfl⟩ := List.mem_map.mp claimed
  have rival : 0 < (left ++ right).countP (·.1.isRetry) := by
    refine List.countP_pos_iff.mpr ⟨_, member, ?_⟩
    rw [owns_removing (safe.owned _ (mem_beside member))]
    rfl
  have own : task = .retry := owns_retrying (retrying ▸ safe.owned (task, phase) (by simp))
  have alone := safe.alone
  rw [List.countP_append] at rival
  rw [List.countP_append, List.countP_cons_of_pos (by rw [own]; rfl)] at alone
  omega

theorem Safe.moves {after : World} {threads : List (Thread Effect Fault Task)} {Answer : Type} {effect : Effect Answer}
    {answer : Answer} (safe : Safe world (left ++ (task, phase) :: right))
    (labelled : lifecycle.Labels (left ++ (task, phase) :: right) threads) (permits : phase.permits Answer effect)
    (allowed : separateHandling ⟨world, threads⟩ task Answer effect = true)
    (performed : Performs True Answer effect world answer after) :
    Moves ((left ++ right).map Prod.snd) world.ledger phase after.ledger (phase.advance Answer effect answer) := by
  refine @performs_moves task phase _ after Answer effect answer ⟨world, threads⟩
    (safe.owned (task, phase) (by simp)) ?_ permits allowed performed
  intro key claimed
  obtain ⟨⟨other, _⟩, member, rfl⟩ := List.mem_map.mp claimed
  obtain ⟨thread, present, same, conforms⟩ := Labels.thread labelled (mem_beside member)
  refine ⟨thread, present, ?_, nextRemoval_of_conforms conforms⟩
  rw [← same, owns_removing (safe.owned _ (mem_beside member))]
  rfl

theorem Safe.step {world after : World} {left right : List (Task × Phase)} {task : Task} {phase next : Phase}
    (safe : Safe world (left ++ (task, phase) :: right))
    (move : Moves ((left ++ right).map Prod.snd) world.ledger phase after.ledger next) :
    Safe after (left ++ (task, next) :: right) := by
  refine ⟨fun key => ?_, forall_mem_middle ?_ fun label member => safe.owned label (mem_beside member), ?_⟩
  · have before := (safe.accounted key).perm (phases_perm left right task phase)
    exact (move.accounted (fun retrying => safe.unclaimed retrying) before).perm (phases_perm left right task _).symm
  · exact owns_advance move (safe.owned (task, phase) (by simp))
  · have alone := safe.alone
    simpa only [List.countP_append, List.countP_cons] using alone

theorem Safe.started {labels : List (Task × Phase)} (safe : Safe world labels)
    (may : (tasks digests settings).mayStart (labels.map Prod.fst) task = true) :
    Safe world ((task, task.first) :: labels) := by
  refine ⟨fun key => (safe.accounted key).started task, List.forall_mem_cons.mpr ⟨?_, safe.owned⟩, ?_⟩
  · cases task <;> rfl
  · by_cases retry : task.isRetry = true
    · have none : labels.countP (·.1.isRetry) = 0 := by
        rw [List.countP_eq_zero]
        intro label member
        simp only [tasks, retry, Bool.not_true, Bool.false_or, List.all_eq_true] at may
        simpa using may label.1 (List.mem_map_of_mem member)
      rw [List.countP_cons, none, if_pos retry]
    · rw [List.countP_cons, if_neg retry]
      exact safe.alone

theorem Safe.finished (safe : Safe world (left ++ (task, phase) :: right)) (rests : phase.rests) :
    Safe world (left ++ right) := by
  refine ⟨?_, fun label member => safe.owned label (mem_beside member), ?_⟩
  · intro key
    exact ((safe.accounted key).perm (phases_perm left right task phase)).finished rests
  · have alone := safe.alone
    simp only [List.countP_append, List.countP_cons] at alone ⊢
    omega

/-- If asked for, an answered key that is not in the cache, and stays out of it. -/
def Settled (asked : Prop) (key : ProxyStateKey) (world : World) (labels : List (Task × Phase)) : Prop :=
  Safe world labels ∧ (asked → world.ledger.answers key ≠ 0 ∧ key ∉ world.ledger.cached)

theorem settled_stable (asked : Prop) (key : ProxyStateKey) :
    Stable (tasks digests settings) separateHandling lifecycle Task.first (Settled asked key) where
  conforms := tasks_conform digests settings
  started _ _ _ settled may := ⟨settled.1.started may, settled.2⟩
  acted := by
    intro world threads left task phase right Answer effect answer after labelled settled permits allowed performed
    have move := settled.1.moves labelled permits allowed performed
    have before := (settled.1.accounted key).perm (phases_perm left right task phase)
    exact ⟨settled.1.step move, fun wanted => move.gone before (settled.2 wanted)⟩
  finished _ _ _ _ _ settled rests := ⟨settled.1.finished rests, settled.2⟩

end Interleavings

/-- At most one answer: in every interleaving in which timeout and response
handling stay apart on each key, a forwarded request is answered at most once;
an answered request is in the cache only while the retry that rejected it is
about to remove it, and once out of the cache it never returns. -/
theorem answered_once {digests : Digests} {settings : Settings} {maxEntries : UInt64}
    {pool : Pool Effect Fault Task World}
    (run : (tasks digests settings).Reaches separateHandling ⟨World.initial maxEntries, []⟩ pool) (key : ProxyStateKey) :
    (repliesTo key pool.world).length ≤ 1 ∧
    (repliesTo key pool.world ≠ [] → key ∈ pool.world.cache →
      ∃ thread ∈ pool.threads, thread.task = .retry ∧ nextRemoval thread.program = some key) ∧
    (repliesTo key pool.world ≠ [] → key ∉ pool.world.cache →
      ∀ later, (tasks digests settings).Reaches separateHandling pool later → key ∉ later.world.cache) := by
  have start : Holds lifecycle (Settled False key) (⟨World.initial maxEntries, []⟩ : Pool Effect Fault Task World) :=
    ⟨[], .nil, .initial maxEntries, False.elim⟩
  obtain ⟨labels, labelled, safe, _⟩ := (settled_stable False key).reaches start run
  have accounted := safe.accounted key
  refine ⟨?_, ?_, ?_⟩
  · exact (Nat.le_add_left _ _).trans accounted.once
  · intro answered present
    have claimed : .removing key ∈ labels.map Prod.snd := by
      by_contra unclaimed
      have none := accounted.stored present unclaimed
      exact answered (List.length_eq_zero_iff.mp (Nat.eq_zero_of_add_eq_zero_left none))
    obtain ⟨⟨task, _⟩, member, rfl⟩ := List.mem_map.mp claimed
    obtain ⟨thread, running, same, conforms⟩ := Labels.thread labelled member
    exact ⟨thread, running, same.symm.trans (owns_removing (safe.owned _ member)), nextRemoval_of_conforms conforms⟩
  · intro answered absent later further
    have settled : Settled True key pool.world labels :=
      ⟨safe, fun _ => ⟨fun none => answered (List.length_eq_zero_iff.mp none), absent⟩⟩
    obtain ⟨_, _, _, stays⟩ := (settled_stable True key).reaches ⟨labels, labelled, settled⟩ further
    exact (stays trivial).2

/-- No retries, and a request times out after five time units. -/
def impatient : Settings where
  config := { maxRetries := 0, failoverOnTimeout := true }
  timeout := 5
  ttl := 100

def forwardTask : Task :=
  .forward sampleEntry.originalRequest sampleEntry.originalSource sampleEntry.homeServer [1, 2]

def respondTask : Task :=
  .respond plainAccept (.udp sampleEntry.homeServer.address)

theorem perform_sound (around : Surroundings) (Answer : Type) (effect : Effect Answer) (world : World) :
    Performs True Answer effect world (perform around Answer effect world).1 (perform around Answer effect world).2 :=
  perform_performs around (fun _ => trivial) Answer effect world

/-- Forwarding a request and relaying the answer to it. -/
theorem plainAccept_answers :
    ∃ pool, (tasks .checksum impatient).Reaches separateHandling ⟨World.initial 10, []⟩ pool ∧
      (repliesTo (proxyStateKey 0 0) pool.world).length = 1 ∧
      ∀ later, (tasks .checksum impatient).Reaches separateHandling pool later →
        proxyStateKey 0 0 ∉ later.world.cache := by
  have found : (follow (tasks .checksum impatient) separateHandling perform
      (.start forwardTask :: List.replicate 6 (.act 0 calm) ++ .start respondTask :: List.replicate 5 (.act 0 calm))
      ⟨World.initial 10, []⟩).any (fun pool =>
        (repliesTo (proxyStateKey 0 0) pool.world).length == 1 &&
        decide (proxyStateKey 0 0 ∉ pool.world.cache)) = true := by decide +kernel
  obtain ⟨pool, followed, facts⟩ := (Option.any_eq_true _ _).mp found
  simp only [Bool.and_eq_true, beq_iff_eq, decide_eq_true_eq] at facts
  have run := follow_reaches perform_sound followed
  refine ⟨pool, run, facts.1, (answered_once run (proxyStateKey 0 0)).2.2 ?_ facts.2⟩
  intro none
  rw [none] at facts
  cases facts.1

/-- The retry manager scans the cache while the request is in it; then its
response arrives and is relayed; then the retry manager rejects the request. -/
theorem plainAccept_and_reject :
    ∃ pool, (tasks .checksum impatient).Reaches (fun _ _ _ _ => true) ⟨World.initial 10, []⟩ pool ∧
      (repliesTo (proxyStateKey 0 0) pool.world).length = 2 := by
  have found : (follow (tasks .checksum impatient) (fun _ _ _ _ => true) perform
      (.start forwardTask :: List.replicate 6 (.act 0 calm) ++
        [.start .retry, .act 0 { calm with time := 10 }] ++
        .start respondTask :: List.replicate 5 (.act 0 calm) ++
        [.act 1 { calm with time := 10 }])
      ⟨World.initial 10, []⟩).any (fun pool =>
        (repliesTo (proxyStateKey 0 0) pool.world).length == 2) = true := by decide +kernel
  obtain ⟨pool, followed, facts⟩ := (Option.any_eq_true _ _).mp found
  exact ⟨pool, follow_reaches perform_sound followed, beq_iff_eq.mp facts⟩

end UsgRadius.Proxy
