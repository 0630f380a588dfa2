import UsgRadius.Eap.SessionLimit

namespace UsgRadius.Eap.EapAuthHandler

open Data EapAuthHandler.Effect

/-! Whose method state is kept. State in the maps of the methods belongs to a live
session, or some call has yet to drop it. -/

variable {Connection : Type}

inductive Store where
  | tls
  | teap

def Store.part : Store → Part
  | tls => .tls
  | teap => .teap

def Store.present (world : World Connection) (id : SessionId) : Store → Prop
  | tls => id ∈ world.tlsSessions
  | teap => id ∈ world.teapSessions

def Store.owed (id : SessionId) (stage : Stage) : Store → Prop
  | tls => stage.owesTls id
  | teap => stage.owesTeap id

def World.live (world : World Connection) (id : SessionId) : Prop :=
  world.manager.sessions.lookup id ≠ none

def Fetched (world : World Connection) (label : Task × (Stage × Held Lock)) : Prop :=
  ∀ work, label.2.1 = .working work → work.fetched = true →
    (∃ mode, (Lock.tlsSessions, mode) ∈ label.2.2) ∧ work.id ∈ world.tlsSessions

structure Covered (world : World Connection) (labels : List (Task × (Stage × Held Lock))) : Prop where
  accounts : Accounts world.locks (labels.map fun label => (label.1, label.2.2))
  exclusive : Exclusive world.locks
  fetched : ∀ label ∈ labels, Fetched world label
  covers : ∀ store id, Store.present world id store → World.live world id ∨ ∃ label ∈ labels, Store.owed id label.2.1 store

def Effect.putsTeap : (Answer : Type) → Effect Connection Answer → Option SessionId
  | _, .teapPut id _ => some id
  | _, _ => none

section Steps

variable {world after : World Connection} {left right : List (Task × (Stage × Held Lock))} {task : Task}
  {stage next : Stage} {held later : Held Lock} {Answer : Type} {effect : Effect Connection Answer} {answer : Answer}
  {id own : SessionId} {store : Store}

theorem exclusive_step (exclusive : Exclusive world.locks) (performed : Performs Answer effect world answer after) :
    Exclusive after.locks := by
  cases effect with
  | acquire lock mode =>
    obtain ⟨free, rfl⟩ := performed
    exact exclusive.acquire free
  | release lock mode =>
    cases performed
    exact exclusive.release
  | _ =>
    rw [locks_kept rfl performed]
    exact exclusive

def Effect.dropsTls : (Answer : Type) → Effect Connection Answer → Bool
  | _, .tlsRemove _ => true
  | _, _ => false

theorem tls_kept (other : dropsTls Answer effect = false) (performed : Performs Answer effect world answer after)
    (present : id ∈ world.tlsSessions) : id ∈ after.tlsSessions := by
  cases effect with
  | tlsRemove ids => cases other
  | tlsPut own server =>
    cases performed
    exact AList.mem_insert _ |>.mpr (.inr present)
  | _ =>
    rw [(unchanged performed).tls fun impossible => by cases impossible]
    exact present

theorem fetched_own (fetched : Fetched world (task, stage, held))
    (permitted : (courses Connection).permits (stage, held) Answer effect)
    (performed : Performs Answer effect world answer after) :
    Fetched after (task, (courses Connection).advance (stage, held) Answer effect answer) := by
  obtain ⟨may, nested, tended⟩ := permitted
  intro work is has
  have still : ∀ before, stage = .working before → before.id = work.id → before.fetched = true →
      dropsTls Answer effect = false →
      (∃ mode, (Lock.tlsSessions, mode) ∈ held) ∧ work.id ∈ after.tlsSessions := fun before was same had other =>
    ⟨(fetched before was had).1, tls_kept other performed (same ▸ (fetched before was had).2)⟩
  cases effect with
  | acquire lock mode =>
    obtain ⟨⟨taken, holds⟩, present⟩ := still work is rfl has rfl
    exact ⟨⟨taken, List.mem_cons_of_mem _ holds⟩, present⟩
  | release lock mode =>
    obtain ⟨rest, rfl⟩ := List.head?_eq_some_iff.mp nested
    cases lock with
    | tlsSessions =>
      cases stage with
      | free room tls teap => cases is
      | working before =>
        cases is
        cases has
    | _ =>
      obtain ⟨⟨taken, holds⟩, present⟩ := still work is rfl has rfl
      rcases List.mem_cons.mp holds with impossible | remains
      · cases impossible
      · exact ⟨⟨taken, remains⟩, present⟩
  | tlsGet id =>
    cases stage with
    | free room tls teap => cases answer <;> cases is
    | working before =>
      cases answer with
      | none => exact still work is rfl has rfl
      | some server =>
        cases is
        rcases Bool.or_eq_true_iff.mp has with already | own
        · exact still before rfl rfl already rfl
        · have there : id ∈ world.tlsSessions := AList.lookup_isSome.mp (by rw [← performed.1]; rfl)
          obtain ⟨⟨lock, taken⟩, member, same⟩ := List.any_eq_true.mp (tended rfl)
          cases of_decide_eq_true same
          exact ⟨⟨taken, member⟩, tls_kept rfl performed (beq_iff_eq.mp own ▸ there)⟩
  | claimResponse id arrival identifier =>
    obtain ⟨room, rfl⟩ := may
    cases answer with
    | claimed =>
      cases is
      cases has
    | _ => cases is
  | createSession _ _ =>
    cases is
    cases has
  | removeSession _ => cases is
  | tlsRemove _ =>
    cases stage <;> cases is
    cases has
  | drawState =>
    cases stage with
    | free room tls teap => cases answer <;> cases is
    | working before => cases answer <;> exact still work is rfl has rfl
  | updateSession id change => cases stage <;> cases change <;> cases is <;> exact still _ rfl rfl has rfl
  | nextIdentifier id => cases stage <;> cases answer <;> cases is <;> exact still _ rfl rfl has rfl
  | _ =>
    cases stage <;> cases is
    exact still _ rfl rfl has rfl

theorem fetched_other {label : Task × (Stage × Held Lock)} (covered : Covered world (left ++ (task, stage, held) :: right))
    (other : label ∈ left ++ right) (permitted : (courses Connection).permits (stage, held) Answer effect)
    (performed : Performs Answer effect world answer after) : Fetched after label := by
  intro work is has
  obtain ⟨⟨mode, holds⟩, present⟩ := covered.fetched label (mem_beside other) work is has
  refine ⟨⟨mode, holds⟩, ?_⟩
  cases drops : dropsTls Answer effect with
  | false => exact tls_kept drops performed present
  | true =>
    cases effect with
    | tlsRemove ids =>
      have writes : (Lock.tlsSessions, LockMode.write) ∈ held := List.contains_iff_mem.mp (permitted.2.2 rfl)
      have accounts := covered.accounts
      rw [List.map_append, List.map_cons] at accounts
      have beside : (label.1, label.2.2) ∈ left.map (fun label => (label.1, label.2.2)) ++
          right.map fun label => (label.1, label.2.2) := by
        rw [← List.map_append]
        exact List.mem_map_of_mem other
      exact absurd holds (accounts.alone covered.exclusive writes beside)
    | _ => cases drops

theorem rests_owe_nothing (rests : stage.rests) : ¬ store.owed id stage := by
  intro owes
  cases stage with
  | free room tls teap =>
    obtain ⟨rfl, rfl⟩ := rests
    cases store <;> cases owes
  | working work =>
    cases store with
    | tls => exact Bool.noConfusion (owes.1.symm.trans rests)
    | teap => exact owes

theorem present_kept (other : part Answer effect ≠ store.part)
    (performed : Performs Answer effect world answer after) (present : store.present after id) :
    store.present world id := by
  cases store with
  | tls =>
    rw [Store.present, (unchanged performed).tls other] at present
    exact present
  | teap =>
    rw [Store.present, (unchanged performed).teap other] at present
    exact present

theorem present_spared {store : Store} {id : SessionId}
    (spares : (part Answer effect != .tls && part Answer effect != .teap) = true)
    (performed : Performs Answer effect world answer after) (present : store.present after id) :
    store.present world id := by
  obtain ⟨notTls, notTeap⟩ := Bool.and_eq_true_iff.mp spares
  apply present_kept ?_ performed present
  cases store with
  | tls => exact bne_iff_ne.mp notTls
  | teap => exact bne_iff_ne.mp notTeap

section Safe

variable {others : Prop}

theorem safe_evicted {room roomAfter : Room} {evicted : List (SessionId × EvictionReason)}
    (evicts : world.manager.Evicts (evicted, after.manager))
    (safe : World.live world id ∨ store.owed id (.free room [] []) ∨ others) :
    World.live after id ∨ store.owed id (.free roomAfter (evicted.map Prod.fst) (evicted.map Prod.fst)) ∨ others := by
  rcases safe with alive | owes | beside
  · by_cases gone : after.manager.sessions.lookup id = none
    · have reported := evicts.reported id alive gone
      exact .inr (.inl (by cases store <;> exact reported))
    · exact .inl gone
  · exact absurd owes (rests_owe_nothing ⟨rfl, rfl⟩)
  · exact .inr (.inr beside)

/-- After a step in which sessions neither come nor go. -/
theorem safe_steady (steady : turnsOver Answer effect = false) (performed : Performs Answer effect world answer after)
    (safe : World.live world id ∨ store.owed id stage ∨ others)
    (owed : store.owed id stage → World.live after id ∨ store.owed id next) :
    World.live after id ∨ store.owed id next ∨ others := by
  rcases safe with alive | owes | beside
  · exact .inl (mt ((live_steady steady performed).2 id).mp alive)
  · exact or_assoc.mp (.inl (owed owes))
  · exact .inr (.inr beside)

end Safe

theorem mem_of_eraseAll {Value : Type} {ids : List SessionId} {sessions : AList fun _ : SessionId => Value}
    (present : id ∈ ids.foldl (fun sessions id => sessions.erase id) sessions) : id ∈ sessions ∧ id ∉ ids := by
  obtain ⟨value, found⟩ := Option.isSome_iff_exists.mp (AList.lookup_isSome.mpr present)
  obtain ⟨earlier, spared⟩ := Maps.lookup_of_eraseAll found
  exact ⟨AList.lookup_isSome.mp (by rw [earlier]; rfl), spared⟩

theorem createSession_live {origin : Origin} (performed : Performs Unit (.createSession own origin) world () after)
    (alive : World.live world id) : World.live after id := by
  obtain ⟨session, sets, _⟩ := createSession_sets performed
  intro gone
  by_cases same : id = own
  · rw [same, sets.own] at gone
    cases gone
  · exact alive ((sets.others id same).symm.trans gone)

theorem removeSession_live (other : id ≠ own) (alive : World.live world id) :
    World.live { world with manager := world.manager.removeSession own } id := by
  unfold World.live EapSessionManager.removeSession
  split
  · exact alive
  · rw [AList.lookup_erase_ne other]
    exact alive

theorem nextIdentifier_live {identifier : UInt8}
    (performed : Performs _ (.nextIdentifier own) world (some identifier) after) : World.live after own := by
  rcases nextIdentifier_cases performed with ⟨impossible, _⟩ | ⟨_, _, _, _, sets⟩
  · cases impossible
  · exact fun gone => by cases sets.own.symm.trans gone

/-- The method state of one session, where other calls may have it to drop. -/
theorem safe_advance {others : Prop} (store : Store) (id : SessionId)
    (safe : store.present world id → World.live world id ∨ store.owed id stage ∨ others)
    (fetched : Fetched world (task, stage, held)) (permitted : stage.permits Answer effect)
    (performed : Performs Answer effect world answer after)
    (allowed : ∀ id, putsTeap Answer effect = some id → World.live world id ∨ id ∈ world.teapSessions)
    (present : store.present after id) :
    World.live after id ∨ store.owed id (stage.advance Answer effect answer) ∨ others := by
  cases effect with
  | evictIdleAt now =>
    obtain ⟨room, rfl⟩ := permitted
    have before := safe (present_spared rfl performed present)
    obtain ⟨rfl, rfl⟩ := performed
    exact safe_evicted (world.manager.evictIdleAt_evicts now) before
  | evictAt now =>
    obtain ⟨room, rfl⟩ := permitted
    have before := safe (present_spared rfl performed present)
    obtain ⟨rfl, rfl⟩ := performed
    exact safe_evicted (world.manager.evictAt_evicts now) before
  | createSession own origin =>
    cases permitted
    rcases safe (present_spared rfl performed present) with alive | owes | beside
    · exact .inl (createSession_live performed alive)
    · exact absurd owes (rests_owe_nothing ⟨rfl, rfl⟩)
    · exact .inr (.inr beside)
  | removeSession own =>
    obtain ⟨work, rfl, rfl⟩ := permitted
    have before := safe (present_spared rfl performed present)
    cases performed
    by_cases is : id = work.id
    · exact .inr (.inl (by cases store <;> exact List.mem_singleton.mpr is))
    · rcases before with alive | owes | beside
      · exact .inl (removeSession_live is alive)
      · cases store with
        | tls => exact absurd owes.2 is
        | teap => exact owes.elim
      · exact .inr (.inr beside)
  | claimResponse own arrival identifier =>
    obtain ⟨room, rfl⟩ := permitted
    exact safe_steady rfl performed (safe (present_spared rfl performed present)) fun owes =>
      absurd owes (rests_owe_nothing ⟨rfl, rfl⟩)
  | nextIdentifier own =>
    obtain ⟨work, rfl, rfl, _⟩ := permitted
    refine safe_steady rfl performed (safe (present_spared rfl performed present)) fun owes => ?_
    cases answer with
    | none => exact .inr (by cases store <;> exact owes)
    | some identifier =>
      cases store with
      | tls => exact .inl (owes.2 ▸ nextIdentifier_live performed)
      | teap => exact owes.elim
  | tlsPut own server =>
    obtain ⟨work, rfl, rfl⟩ := permitted
    cases store with
    | tls =>
      by_cases new : id = work.id ∧ work.fetched = false
      · exact .inr (.inl (And.intro (by simp [new.2]) new.1))
      · refine safe_steady rfl performed (safe ?_) fun owes => .inr ⟨by simp [owes.1], owes.2⟩
        cases performed
        rcases (AList.mem_insert _).mp present with same | old
        · exact same ▸ (fetched work rfl (by simpa [same] using new)).2
        · exact old
    | teap => exact safe_steady rfl performed (safe (present_kept (by simp [part, Store.part]) performed present)) .inr
  | tlsRemove ids =>
    cases store with
    | tls =>
      obtain ⟨old, spared⟩ : id ∈ world.tlsSessions ∧ id ∉ ids := by
        cases performed
        exact mem_of_eraseAll present
      exact safe_steady rfl performed (safe old) fun owes => absurd (permitted id owes) spared
    | teap =>
      exact safe_steady rfl performed (safe (present_kept (by simp [part, Store.part]) performed present))
        fun owes => by cases stage <;> exact .inr owes
  | teapPut own server =>
    cases store with
    | tls => exact safe_steady rfl performed (safe (present_kept (by simp [part, Store.part]) performed present)) .inr
    | teap =>
      cases performed
      rcases (AList.mem_insert _).mp present with rfl | old
      · rcases allowed id rfl with alive | there
        · exact .inl alive
        · exact safe there
      · exact safe old
  | teapRemove ids =>
    cases store with
    | tls =>
      exact safe_steady rfl performed (safe (present_kept (by simp [part, Store.part]) performed present))
        fun owes => by cases stage <;> exact .inr owes
    | teap =>
      obtain ⟨old, spared⟩ : id ∈ world.teapSessions ∧ id ∉ ids := by
        cases performed
        exact mem_of_eraseAll present
      exact safe_steady rfl performed (safe old) fun owes => absurd (permitted id owes) spared
  | updateSession own change =>
    refine safe_steady rfl performed (safe (present_spared rfl performed present)) fun owes => ?_
    cases store <;> cases stage <;> cases change <;> exact .inr owes
  | drawState | tlsGet _ =>
    refine safe_steady rfl performed (safe (present_spared rfl performed present)) fun owes => ?_
    cases store <;> cases stage <;> cases answer <;> exact .inr owes
  | release lock mode =>
    refine safe_steady rfl performed (safe (present_spared rfl performed present)) fun owes => ?_
    cases store <;> cases stage <;> cases lock <;> exact .inr owes
  | _ =>
    refine safe_steady rfl performed (safe (present_spared rfl performed present)) fun owes => ?_
    cases store <;> cases stage <;> exact .inr owes

theorem Covered.advance (covered : Covered world (left ++ (task, stage, held) :: right))
    (permitted : (courses Connection).permits (stage, held) Answer effect)
    (performed : Performs Answer effect world answer after)
    (allowed : ∀ id, putsTeap Answer effect = some id → World.live world id ∨ id ∈ world.teapSessions) :
    Covered after (left ++ (task, (courses Connection).advance (stage, held) Answer effect answer) :: right) where
  accounts := by
    have accounts := covered.accounts
    rw [List.map_append, List.map_cons] at accounts ⊢
    exact accounts_step accounts permitted.2.1 performed
  exclusive := exclusive_step covered.exclusive performed
  fetched := forall_mem_middle
    (fetched_own (covered.fetched (task, stage, held) (by simp)) permitted performed)
    fun label other => fetched_other covered other permitted performed
  covers store id present := by
    rw [exists_mem_middle]
    refine safe_advance store id (fun old => ?_) (covered.fetched (task, stage, held) (by simp)) permitted.1 performed
      allowed present
    have before := covered.covers store id old
    rwa [exists_mem_middle] at before

end Steps

/-- TEAP state is put into the map only while the session is live or has some
already. -/
def timelyTeap : Guard (Effect Connection) Empty Task (World Connection)
  | pool, _, _, .teapPut id _ =>
    (pool.world.manager.sessions.lookup id).isSome || (pool.world.teapSessions.lookup id).isSome
  | _, _, _, _ => true

section Main

variable (engine : TlsEngine Connection) (hmacs : Hmacs) (settings : Settings)

theorem covered_stable :
    Stable (handlerTasks engine hmacs settings) timelyTeap (courses Connection) (fun task => (Task.begins task, []))
      Covered where
  conforms := handlerTasks_conform
  started := by
    intro world labels task covered _
    refine ⟨covered.accounts.start task, covered.exclusive, ?_, fun store id present => ?_⟩
    · intro label member
      rcases List.mem_cons.mp member with rfl | old
      · intro work is
        cases task <;> cases is
      · exact covered.fetched label old
    · rcases covered.covers store id present with alive | ⟨label, old, owes⟩
      · exact .inl alive
      · exact .inr ⟨label, List.mem_cons_of_mem _ old, owes⟩
  acted := by
    intro world threads left task state right Answer effect answer after _ covered permitted allowed performed
    apply covered.advance permitted performed
    intro id puts
    cases effect with
    | teapPut own server =>
      cases puts
      rcases Bool.or_eq_true_iff.mp allowed with alive | there
      · exact .inl fun gone => by rw [gone] at alive; cases alive
      · exact .inr (AList.lookup_isSome.mp there)
    | _ => cases puts
  finished := by
    intro world left task state right covered rests
    obtain ⟨stage, held⟩ := state
    obtain ⟨settled, rfl⟩ := rests
    refine ⟨?_, covered.exclusive, fun label other => covered.fetched label (mem_beside other), fun store id present => ?_⟩
    · have accounts := covered.accounts
      rw [List.map_append, List.map_cons] at accounts
      rw [List.map_append]
      exact accounts.finish
    · have before := covered.covers store id present
      rw [exists_mem_middle] at before
      exact before.imp_right fun owes => owes.resolve_left (rests_owe_nothing settled)

/-- Whatever calls and reapers run side by side: once all have ended, every method
state belongs to a live session, provided TEAP state was put in time. -/
theorem methodState_live {timeout maxSessions : Nat} {pool : Pool (Effect Connection) Empty Task (World Connection)}
    (run : (handlerTasks engine hmacs settings).Reaches timelyTeap ⟨.initial timeout maxSessions, []⟩ pool)
    (quiescent : pool.threads = []) :
    (∀ id ∈ pool.world.tlsSessions, id ∈ pool.world.manager.sessions) ∧
      ∀ id ∈ pool.world.teapSessions, id ∈ pool.world.manager.sessions := by
  have initially : Holds (courses Connection) Covered
      (⟨.initial timeout maxSessions, []⟩ : Pool (Effect Connection) Empty Task (World Connection)) := by
    refine ⟨[], .nil, accounts_empty, fun _ => .inl rfl, fun _ member => ?_, fun store id present => ?_⟩
    · cases member
    · cases store <;> exact absurd present (AList.notMem_empty _)
  obtain ⟨labels, labelled, covered⟩ := (covered_stable engine hmacs settings).reaches initially run
  rw [quiescent] at labelled
  cases labelled
  have lives : ∀ store id, Store.present pool.world id store → id ∈ pool.world.manager.sessions := by
    intro store id present
    rcases covered.covers store id present with alive | ⟨_, member, _⟩
    · exact not_not.mp fun absent => alive (AList.lookup_eq_none.mpr absent)
    · cases member
  exact ⟨lives .tls, lives .teap⟩

end Main

open TlsEngine (PlainConnection plain)

def sampleReaping : List SampleTurn :=
  [.start (.reapIdle 1000)] ++ List.replicate 12 (.act 0 (sampleSurroundings 2)) ++ [.finish 0]

/-- A conversation over EAP-TLS is evicted once its state is in the map; then
another one starts. -/
def evictedTls : List SampleTurn :=
  [.start (.authenticate sampleIdentity)] ++ List.replicate 27 (.act 0 (sampleSurroundings 0)) ++ sampleReaping ++
    List.replicate 13 (.act 0 (sampleSurroundings 0)) ++ [.finish 0] ++
    [.start (.authenticate sampleIdentity)] ++ List.replicate 34 (.act 0 (sampleSurroundings 1)) ++ [.finish 0]

theorem evictedTls_live :
    ∃ pool, follow (handlerTasks plain .checksum sampleSettings) (going timelyTeap) perform evictedTls samplePool =
        some pool ∧ pool.threads.isEmpty = true ∧ pool.world.tlsSessions.keys = [Hex.encode (List.replicate 16 1)] ∧
      ∀ id ∈ pool.world.tlsSessions, id ∈ pool.world.manager.sessions := by
  have ran : ((follow (handlerTasks plain .checksum sampleSettings) (going timelyTeap) perform evictedTls
      samplePool).any fun pool =>
        pool.threads.isEmpty && pool.world.tlsSessions.keys == [Hex.encode (List.replicate 16 1)]) = true := by
    decide +kernel
  obtain ⟨pool, reached, holds⟩ := (Option.any_eq_true _ _).mp ran
  obtain ⟨ended, keys⟩ := Bool.and_eq_true_iff.mp holds
  exact ⟨pool, reached, ended, beq_iff_eq.mp keys, (methodState_live plain .checksum sampleSettings
    (going_reaches reached) (List.isEmpty_iff.mp ended)).1⟩

def sampleTeapSettings : Settings where
  tlsConfigs := AList.singleton "teap_" ⟨0⟩
  maxFragmentSize := 1020
  teapMaxPhase2Rounds := none

def evictedTeap : List SampleTurn :=
  [.start (.authenticate sampleIdentity)] ++ List.replicate 24 (.act 0 (sampleSurroundings 0)) ++ sampleReaping ++
    List.replicate 11 (.act 0 (sampleSurroundings 0)) ++ [.finish 0]

theorem evictedTeap_orphaned :
    ∃ pool, (handlerTasks plain .checksum sampleTeapSettings).Reaches (fun _ _ _ _ => true) samplePool pool ∧
      pool.threads = [] ∧ ∃ id ∈ pool.world.teapSessions, id ∉ pool.world.manager.sessions := by
  have ran : ((follow (handlerTasks plain .checksum sampleTeapSettings) (going fun _ _ _ _ => true) perform evictedTeap
      samplePool).any fun pool => pool.threads.isEmpty &&
        pool.world.teapSessions.keys.any fun id => !pool.world.manager.sessions.keys.contains id) = true := by
    decide +kernel
  obtain ⟨pool, reached, holds⟩ := (Option.any_eq_true _ _).mp ran
  obtain ⟨ended, orphaned⟩ := Bool.and_eq_true_iff.mp holds
  obtain ⟨id, kept, gone⟩ := List.any_eq_true.mp orphaned
  refine ⟨pool, going_reaches reached, List.isEmpty_iff.mp ended, id, AList.mem_keys.mp kept, fun alive => ?_⟩
  rw [List.contains_iff_mem.mpr (AList.mem_keys.mpr alive)] at gone
  cases gone

end UsgRadius.Eap.EapAuthHandler
