import UsgRadius.Eap.Locking

namespace UsgRadius.Eap

open Data

/-! How many sessions there are. A call makes room for a session under the lock of
the session manager, gives the lock back, and takes it again to create the
session. -/

namespace EapSessionManager

variable {manager after : EapSessionManager}

/-- Every round takes an entry out of the recency order or a session out of the
map, as long as there is a session. -/
theorem nextEvicted_shrinks (stocked : 0 < manager.sessions.entries.length) :
    ∃ entry, manager.nextEvicted = some entry ∧
      (manager.lru.erase entry.1).entries.length + (manager.sessions.erase entry.2).entries.length <
        manager.lru.entries.length + manager.sessions.entries.length := by
  cases order : manager.lru.entries with
  | nil =>
    have unordered : manager.lru.popFirst = none := OrderedMap.popFirst_of_nil order
    have keyed : 0 < manager.sessions.keys.length := by simpa [AList.keys, List.keys] using stocked
    obtain ⟨id, others, keys⟩ := List.exists_cons_of_length_pos keyed
    have member : id ∈ manager.sessions := AList.mem_keys.mpr (keys ▸ List.mem_cons_self)
    obtain ⟨session, found⟩ := Option.isSome_iff_exists.mp (AList.lookup_isSome.mpr member)
    refine ⟨(0, id), by rw [nextEvicted, unordered, keys]; rfl, ?_⟩
    have fewer := Maps.length_erase found
    simp only [OrderedMap.erase, order, List.filter_nil, List.length_nil]
    omega
  | cons entry rest =>
    obtain ⟨others, popped⟩ := OrderedMap.popFirst_of_cons order
    refine ⟨entry, by rw [nextEvicted, popped], ?_⟩
    have most := Maps.length_erase_le manager.sessions entry.2
    have fewer : (manager.lru.erase entry.1).entries.length ≤ rest.length := by
      simp only [OrderedMap.erase, order]
      rw [List.filter_cons_of_neg (by simp)]
      exact List.length_filter_le _ _
    simp only [List.length_cons]
    omega

theorem evictCapacity_room {evicted : List (SessionId × EvictionReason) × EapSessionManager} (rounds : Nat)
    (enough : evicted.2.lru.entries.length + evicted.2.sessions.entries.length ≤ rounds)
    (positive : 0 < evicted.2.maxSessions) : (evictCapacity rounds evicted).2.sessionCount < evicted.2.maxSessions := by
  induction rounds generalizing evicted with
  | zero =>
    simp only [evictCapacity, sessionCount]
    omega
  | succ rounds ih =>
    rw [evictCapacity]
    split
    next fits => exact fits
    next full =>
      obtain ⟨entry, next, fewer⟩ := @nextEvicted_shrinks evicted.2 (by omega)
      simp only [next]
      apply @ih (evictEntry .capacity entry evicted)
      · simp only [evictEntry]
        omega
      · exact positive

theorem evictAt_room (manager : EapSessionManager) (now : Nat) (positive : 0 < manager.maxSessions) :
    (manager.evictAt now).2.sessionCount < manager.maxSessions := by
  have limit := (manager.evictIdleAt_evicts now).limit
  rw [← limit] at positive ⊢
  exact evictCapacity_room _ (Nat.le_refl _) positive

theorem sessionCount_le (old : ∀ id, after.sessions.lookup id ≠ none → manager.sessions.lookup id ≠ none) :
    after.sessionCount ≤ manager.sessionCount := by
  apply Maps.length_le_of_subset
  intro id member
  have live := old id fun absent => AList.lookup_eq_none.mp absent member
  exact not_not.mp fun absent => live (AList.lookup_eq_none.mpr absent)

theorem Shrinks.sessionCount_le (shrinks : after.Shrinks manager) : after.sessionCount ≤ manager.sessionCount := by
  apply EapSessionManager.sessionCount_le
  intro id live absent
  obtain ⟨session, found⟩ := Option.ne_none_iff_exists'.mp live
  rw [shrinks id session found] at absent
  cases absent

theorem createSession_count (manager : EapSessionManager) (id : SessionId) (now : Nat)
    (change : EapSession → EapSession) :
    ((manager.createSession id now).modify id change).sessionCount ≤ manager.sessionCount + 1 := by
  have most : ((manager.createSession id now).modify id change).sessionCount ≤
      { manager with sessions := manager.sessions.insert id (.new id now) }.sessionCount := by
    apply sessionCount_le
    intro other live
    rw [modify_lookup, createSession_lookup] at live
    by_cases same : other = id
    · rw [same, AList.lookup_insert]
      exact fun impossible => by cases impossible
    · rw [if_neg same, if_neg same] at live
      rwa [AList.lookup_insert_ne same]
  apply most.trans
  by_cases present : id ∈ manager.sessions
  · exact (Maps.length_insert_of_mem present _).le.trans (Nat.le_succ _)
  · exact (Maps.length_insert_of_notMem present _).le

end EapSessionManager

namespace EapAuthHandler

variable {Connection Answer : Type} {effect : Effect Connection Answer} {world after : World Connection}
  {answer : Answer}

/-- Whether sessions may come or go with the effect. -/
def Effect.turnsOver : (Answer : Type) → Effect Connection Answer → Bool
  | _, .evictIdleAt _ | _, .evictAt _ | _, .createSession _ _ | _, .removeSession _ => true
  | _, _ => false

theorem live_steady (steady : Effect.turnsOver Answer effect = false)
    (performed : Performs Answer effect world answer after) :
    after.manager.maxSessions = world.manager.maxSessions ∧
      ∀ id, after.manager.sessions.lookup id = none ↔ world.manager.sessions.lookup id = none := by
  cases effect with
  | updateSession id change =>
    rcases updateSession_cases performed with ⟨_, _, rfl⟩ | ⟨_, _, _, found, sets⟩
    · exact ⟨rfl, fun _ => Iff.rfl⟩
    · exact ⟨sets.limit, sets.live found⟩
  | nextIdentifier id =>
    rcases nextIdentifier_cases performed with ⟨_, _, rfl⟩ | ⟨_, _, _, found, sets⟩
    · exact ⟨rfl, fun _ => Iff.rfl⟩
    · exact ⟨sets.limit, sets.live found⟩
  | claimResponse id arrival identifier =>
    rcases claimResponse_cases performed with ⟨_, rfl⟩ | ⟨_, _, found, _, _, sets⟩
    · exact ⟨rfl, fun _ => Iff.rfl⟩
    · exact ⟨sets.limit, sets.live found⟩
  | evictIdleAt _ | evictAt _ | createSession _ _ | removeSession _ => cases steady
  | _ =>
    rw [(unchanged performed).manager fun impossible => by cases impossible]
    exact ⟨rfl, fun _ => Iff.rfl⟩

def Effect.creates : (Answer : Type) → Effect Connection Answer → Bool
  | _, .createSession _ _ => true
  | _, _ => false

theorem fewer_sessions (old : Effect.creates Answer effect = false)
    (performed : Performs Answer effect world answer after) :
    after.manager.maxSessions = world.manager.maxSessions ∧ after.manager.sessionCount ≤ world.manager.sessionCount := by
  cases effect with
  | createSession id origin => cases old
  | evictIdleAt now =>
    obtain ⟨_, rfl⟩ := performed
    have evicts := world.manager.evictIdleAt_evicts now
    exact ⟨evicts.limit, evicts.shrinks.sessionCount_le⟩
  | evictAt now =>
    obtain ⟨_, rfl⟩ := performed
    have evicts := world.manager.evictAt_evicts now
    exact ⟨evicts.limit, evicts.shrinks.sessionCount_le⟩
  | removeSession id =>
    cases performed
    refine ⟨?_, (world.manager.removeSession_shrinks id).sessionCount_le⟩
    unfold EapSessionManager.removeSession
    split <;> rfl
  | _ =>
    obtain ⟨limit, live⟩ := live_steady rfl performed
    exact ⟨limit, EapSessionManager.sessionCount_le fun id there => mt (live id).mpr there⟩

def Effect.makesRoom : (Answer : Type) → Effect Connection Answer → Bool
  | _, .evictAt _ => true
  | _, _ => false

def startsConversation : Task → Bool
  | .authenticate arrival => arrival.starts
  | _ => false

/-- A call makes room for its session only while no other call starts a
conversation. -/
def oneStart : Guard (Effect Connection) Empty Task (World Connection)
  | pool, task, _, .evictAt _ =>
    !startsConversation task || decide (pool.threads.countP (fun thread => startsConversation thread.task) ≤ 1)
  | _, _, _, _ => true

def reserved (labels : List (Task × (Stage × Held Lock))) : Nat :=
  labels.countP fun label => label.2.1.room.isMade

structure Limited (most : Nat) (world : World Connection) (labels : List (Task × (Stage × Held Lock))) : Prop where
  limit : world.manager.maxSessions = most
  starters : ∀ label ∈ labels, label.2.1.room ≠ .never → startsConversation label.1 = true
  bounded : world.manager.sessionCount + reserved labels ≤ most

theorem room_advance {stage : Stage} {Answer : Type} {effect : Effect Connection Answer} {answer : Answer}
    (other : Effect.makesRoom Answer effect = false) :
    ((stage.advance Answer effect answer).room ≠ .never → stage.room ≠ .never) ∧
      ((stage.advance Answer effect answer).room.isMade = true → stage.room.isMade = true) := by
  cases effect with
  | evictAt now => cases other
  | release lock mode => cases lock <;> cases stage <;> exact ⟨id, id⟩
  | drawState =>
    cases stage with
    | working work => cases answer <;> exact ⟨id, id⟩
    | free room tls teap =>
      cases answer with
      | none => exact ⟨id, id⟩
      | some state => cases room <;> simp [Stage.advance, Stage.room, Room.choose, Room.isMade]
  | createSession _ _ | removeSession _ => exact ⟨fun made => absurd rfl made, fun made => by cases made⟩
  | claimResponse session arrival identifier =>
    cases answer with
    | claimed => exact ⟨fun made => absurd rfl made, fun made => by cases made⟩
    | _ => exact ⟨id, id⟩
  | updateSession session change => cases stage <;> cases change <;> exact ⟨id, id⟩
  | nextIdentifier _ | tlsGet _ => cases stage <;> cases answer <;> exact ⟨id, id⟩
  | _ => cases stage <;> exact ⟨id, id⟩

section Main

variable {engine : TlsEngine Connection} {hmacs : Hmacs} {settings : Settings} {most : Nat}
  {world after : World Connection} {left right : List (Task × (Stage × Held Lock))} {task : Task} {stage : Stage}
  {held later : Held Lock}

@[simp] theorem reserved_middle (label : Task × (Stage × Held Lock)) :
    reserved (left ++ label :: right) = reserved (left ++ right) + if label.2.1.room.isMade then 1 else 0 := by
  simp only [reserved, List.countP_append, List.countP_cons]
  omega

theorem Limited.step {next : Stage} (limited : Limited most world (left ++ (task, stage, held) :: right))
    (limit : after.manager.maxSessions = world.manager.maxSessions) (begun : next.room ≠ .never → stage.room ≠ .never)
    (bounded : after.manager.sessionCount + reserved (left ++ (task, next, later) :: right) ≤ most) :
    Limited most after (left ++ (task, next, later) :: right) := by
  refine ⟨limit.trans limited.limit, ?_, bounded⟩
  apply forall_mem_middle
  · exact fun starting => limited.starters (task, stage, held) (by simp) (begun starting)
  · exact fun label member => limited.starters label (mem_beside member)

theorem Limited.quiet {next : Stage} (limited : Limited most world (left ++ (task, stage, held) :: right))
    (limit : after.manager.maxSessions = world.manager.maxSessions)
    (fewer : after.manager.sessionCount ≤ world.manager.sessionCount)
    (begun : next.room ≠ .never → stage.room ≠ .never) (made : next.room.isMade = true → stage.room.isMade = true) :
    Limited most after (left ++ (task, next, later) :: right) := by
  apply limited.step limit begun
  have bounded := limited.bounded
  simp only [reserved_middle] at bounded ⊢
  by_cases roomy : next.room.isMade = true
  · rw [if_pos (made roomy)] at bounded
    rw [if_pos roomy]
    omega
  · rw [if_neg roomy]
    omega

theorem Limited.others (limited : Limited most world (left ++ (task, stage, held) :: right))
    (performed : Performs Answer effect world answer after) (old : Effect.creates Answer effect = false)
    (other : Effect.makesRoom Answer effect = false) :
    Limited most after (left ++ (task, stage.advance Answer effect answer, later) :: right) := by
  obtain ⟨limit, fewer⟩ := fewer_sessions old performed
  obtain ⟨begun, made⟩ := @room_advance _ stage _ _ answer other
  exact limited.quiet limit fewer begun made

theorem Limited.create {id : SessionId} {origin : Origin} {answer : Unit}
    (limited : Limited most world (left ++ (task, .free (.ready id) [] [], held) :: right))
    (performed : Performs Unit (.createSession id origin) world answer after) :
    Limited most after
      (left ++ (task, .working ⟨id, false, false, none, none⟩, later) :: right) := by
  obtain ⟨session, sets, _⟩ := createSession_sets performed
  apply limited.step sets.limit fun starting => absurd rfl starting
  obtain ⟨now, rfl⟩ := performed
  have grows := world.manager.createSession_count id now fun session => { session with peerBinding := origin.encode }
  have bounded := limited.bounded
  simp only [reserved_middle, Stage.room, Room.isMade, if_true, Bool.false_eq_true, if_false] at bounded ⊢
  exact (Nat.add_le_add_right grows _).trans (by omega)

theorem Limited.evict {room : Room} {now : Nat} (limited : Limited most world (left ++ (task, .free room [] [], held) :: right))
    (positive : 0 < most)
    (only : startsConversation task = true →
      (left ++ (task, Stage.free room [] [], held) :: right).countP (fun label => startsConversation label.1) ≤ 1)
    {ids : List SessionId} :
    Limited most { world with manager := (world.manager.evictAt now).2 }
      (left ++ (task, .free room.make ids ids, later) :: right) := by
  have evicts := world.manager.evictAt_evicts now
  have own : (task, Stage.free room [] [], held) ∈ left ++ (task, Stage.free room [] [], held) :: right := by simp
  by_cases starts : startsConversation task = true
  · have others : reserved (left ++ right) = 0 := by
      apply List.countP_eq_zero.mpr
      intro label member roomy
      have idle := @alone_of_countP _ left right _ (fun label => startsConversation label.1) starts (only starts) label member
      have busy := limited.starters label (mem_beside member) fun never => by
        rw [never] at roomy
        cases roomy
      rw [busy] at idle
      cases idle
    have below := world.manager.evictAt_room now (limited.limit ▸ positive)
    rw [limited.limit] at below
    apply limited.step evicts.limit
    · intro begun never
      exact begun (congrArg Room.make never)
    · rw [reserved_middle, others]
      dsimp only
      split <;> omega
  · have never : room = .never := by
      by_contra begun
      exact starts (limited.starters _ own begun)
    subst never
    exact limited.quiet evicts.limit evicts.shrinks.sessionCount_le id id

theorem limited_stable (positive : 0 < most) :
    Stable (handlerTasks engine hmacs settings) oneStart (courses Connection) (fun task => (Task.begins task, []))
      (Limited most) where
  conforms := handlerTasks_conform
  started := by
    intro world labels task limited _
    refine ⟨limited.limit, fun label member begun => ?_, ?_⟩
    · rcases List.mem_cons.mp member with rfl | old
      · cases task with
        | authenticate arrival =>
          by_contra idle
          exact begun (if_neg idle)
        | reap _ | reapIdle _ => exact absurd rfl begun
      · exact limited.starters label old begun
    · have unmade : (Task.begins task).room.isMade = false := by
        cases task with
        | authenticate arrival =>
          simp only [Task.begins, Stage.room, roomFor]
          split <;> rfl
        | reap _ | reapIdle _ => rfl
      have same : reserved ((task, (Task.begins task, [])) :: labels) = reserved labels :=
        List.countP_cons_of_neg (by simp [unmade])
      exact same ▸ limited.bounded
  acted := by
    intro world threads left task state right Answer effect answer after labelled limited permitted allowed performed
    obtain ⟨stage, held⟩ := state
    obtain ⟨may, _, _⟩ := permitted
    have performed : Performs Answer effect world answer after := performed
    cases effect with
    | evictAt now =>
      obtain ⟨room, rfl⟩ := may
      obtain ⟨rfl, rfl⟩ := performed
      apply limited.evict positive
      intro starts
      have few : threads.countP (fun thread => startsConversation thread.task) ≤ 1 := by
        simpa [oneStart, starts] using allowed
      have tasks := congrArg (List.countP startsConversation) (Labels.tasks labelled)
      rw [List.countP_map, List.countP_map] at tasks
      exact tasks.le.trans few
    | createSession id origin =>
      cases may
      exact limited.create performed
    | _ => exact limited.others performed rfl rfl
  finished := by
    intro world left task state right limited _
    refine ⟨limited.limit, fun label member => limited.starters label (mem_beside member), ?_⟩
    have bounded := limited.bounded
    rw [reserved_middle] at bounded
    omega

/-- Whatever calls run side by side: where the conversations are started one
after another, there are never more sessions than allowed. -/
theorem sessionLimit_kept (engine : TlsEngine Connection) (hmacs : Hmacs) (settings : Settings)
    {timeout maxSessions : Nat} (positive : 1 ≤ maxSessions)
    {pool : Pool (Effect Connection) Empty Task (World Connection)}
    (run : (handlerTasks engine hmacs settings).Reaches oneStart ⟨.initial timeout maxSessions, []⟩ pool) :
    pool.world.manager.sessionCount ≤ maxSessions := by
  have initially : Holds (courses Connection) (Limited maxSessions)
      (⟨.initial timeout maxSessions, []⟩ : Pool (Effect Connection) Empty Task (World Connection)) :=
    ⟨[], .nil, Nat.max_eq_left positive, (fun _ member => by cases member), Nat.zero_le _⟩
  obtain ⟨labels, _, limited⟩ := (limited_stable positive).reaches initially run
  exact (Nat.le_add_right _ _).trans limited.bounded

end Main

open TlsEngine (PlainConnection plain)

abbrev tightPool : Pool (Effect PlainConnection) Empty Task (World PlainConnection) :=
  ⟨.initial 120 1, []⟩

/-- One conversation is started, then another, for which the first is evicted. -/
def orderlyStarts : List SampleTurn :=
  [.start (.authenticate sampleIdentity)] ++ List.replicate 34 (.act 0 (sampleSurroundings 0)) ++ [.finish 0] ++
    [.start (.authenticate sampleIdentity)] ++ List.replicate 22 (.act 0 (sampleSurroundings 1))

theorem orderlyStarts_kept :
    ∃ pool, follow (handlerTasks plain .checksum sampleSettings) (going oneStart) perform orderlyStarts tightPool =
        some pool ∧ (pool.world.manager.getSession (Hex.encode (List.replicate 16 1))).isSome = true ∧
      pool.world.manager.sessionCount ≤ 1 := by
  have ran : ((follow (handlerTasks plain .checksum sampleSettings) (going oneStart) perform orderlyStarts
      tightPool).any fun pool =>
        (pool.world.manager.getSession (Hex.encode (List.replicate 16 1))).isSome) = true := by
    decide +kernel
  obtain ⟨pool, reached, found⟩ := (Option.any_eq_true _ _).mp ran
  exact ⟨pool, reached, found,
    sessionLimit_kept plain .checksum sampleSettings (Nat.le_refl 1) (going_reaches reached)⟩

/-- Two calls make room for a session each, where there is room for one, and then
both create theirs. -/
def racingStarts : List SampleTurn :=
  [.start (.authenticate sampleIdentity)] ++ List.replicate 9 (.act 0 (sampleSurroundings 0)) ++
    [.start (.authenticate sampleIdentity)] ++ List.replicate 13 (.act 0 (sampleSurroundings 1)) ++
    List.replicate 4 (.act 1 (sampleSurroundings 0))

theorem racingStarts_exceed :
    ∃ pool, (handlerTasks plain .checksum sampleSettings).Reaches (fun _ _ _ _ => true) tightPool pool ∧
      pool.world.manager.sessionCount = 2 := by
  have ran : ((follow (handlerTasks plain .checksum sampleSettings) (going fun _ _ _ _ => true) perform racingStarts
      tightPool).any fun pool => pool.world.manager.sessionCount == 2) = true := by
    decide +kernel
  obtain ⟨pool, reached, two⟩ := (Option.any_eq_true _ _).mp ran
  exact ⟨pool, going_reaches reached, beq_iff_eq.mp two⟩

end EapAuthHandler

end UsgRadius.Eap
