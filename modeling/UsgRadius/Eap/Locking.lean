import UsgRadius.Eap.Courses

namespace UsgRadius.Eap.EapAuthHandler

open Data Protocol

/-! How the calls of the handler nest their locks, and when calls that run side
by side cannot come to wait for each other. -/

variable {Connection Answer : Type} {engine : TlsEngine Connection} {hmacs : Hmacs} {settings : Settings}
  {held : Held Lock} {lock : Lock} {mode : LockMode} {effect : Effect Connection Answer}
  {world after : World Connection} {answer : Answer} {task : Task}
  {pool : Pool (Effect Connection) Empty Task (World Connection)}

theorem handlerTasks_balanced (task : Task) :
    (lockOrder Connection).Conforms [] ((handlerTasks engine hmacs settings).start task) := by
  have nested := @Follows.project _ _ _ _ (lockOrder Connection) _ (courses Connection) _ Prod.snd _ _
    (fun _ _ _ permitted => permitted.2.1) (fun _ _ _ _ => rfl) (@handlerTasks_conform _ engine hmacs settings task)
  apply Follows.mono nested
  intro after outcome ended
  obtain ⟨whole, rfl, rests⟩ := ended
  exact rests.2

theorem mayTake_cases (may : mayTake held lock mode) :
    held = [] ∨ held = [(.tlsConfigs, .read)] ∨
      (held = [(.sessionManager, .read)] ∧ (lock = .tlsSessions ∨ lock = .teapSessions)) ∨
      (((.tlsSessions, .write) ∈ held ∨ (.teapSessions, .write) ∈ held) ∧ lock = .sessionManager ∧
        ∀ mode, (.sessionManager, mode) ∉ held) := by
  unfold mayTake at may
  split at may
  · exact .inl rfl
  · exact .inr (.inl rfl)
  · exact .inr (.inr (.inr ⟨by simp, rfl, by simp⟩))
  · exact .inr (.inr (.inr ⟨by simp, rfl, by simp⟩))
  · exact .inr (.inr (.inr ⟨by simp, rfl, by simp⟩))
  · exact .inr (.inr (.inl ⟨rfl, .inl rfl⟩))
  · exact .inr (.inr (.inl ⟨rfl, .inr rfl⟩))
  · cases may

/-- The locks of the sessions. -/
def sessionLocks : Set Lock :=
  {.sessionManager, .tlsSessions, .teapSessions}

/-- The session manager's lock is not taken for reading while a method's is held
for writing, nor a method's for writing while the manager's is held for
reading. -/
def exclusive : Guard (Effect Connection) Empty Task (World Connection)
  | pool, _, _, .acquire .sessionManager .read =>
    pool.world.locks .tlsSessions .write == 0 && pool.world.locks .teapSessions .write == 0
  | pool, _, _, .acquire .tlsSessions .write => pool.world.locks .sessionManager .read == 0
  | pool, _, _, .acquire .teapSessions .write => pool.world.locks .sessionManager .read == 0
  | _, _, _, _ => true

def Separate (locks : LockTable Lock) : Prop :=
  locks .sessionManager .read = 0 ∨ (locks .tlsSessions .write = 0 ∧ locks .teapSessions .write = 0)

def LockInvariant (world : World Connection) (labels : List (Task × Held Lock)) : Prop :=
  Accounts world.locks labels ∧ Separate world.locks

theorem locks_kept (silent : locking Answer effect = none) (performed : Performs Answer effect world answer after) :
    after.locks = world.locks := by
  apply (unchanged performed).locks
  cases effect with
  | acquire lock mode | release lock mode => cases silent
  | _ => exact fun impossible => by cases impossible

theorem accounts_step {left right : List (Task × Held Lock)}
    (accounts : Accounts world.locks (left ++ (task, held) :: right))
    (permitted : (lockOrder Connection).permits held Answer effect)
    (performed : Performs Answer effect world answer after) :
    Accounts after.locks (left ++ (task, (lockOrder Connection).advance held Answer effect answer) :: right) := by
  cases effect with
  | acquire lock mode =>
    obtain ⟨_, rfl⟩ := performed
    exact accounts.acquire
  | release lock mode =>
    cases performed
    obtain ⟨rest, rfl⟩ := List.head?_eq_some_iff.mp permitted
    exact accounts.release
  | _ =>
    rw [locks_kept rfl performed]
    exact accounts

section Separation

variable {locks : LockTable Lock} {lock : Lock} {mode : LockMode}

theorem Separate.acquire (separate : Separate pool.world.locks)
    (allowed : exclusive pool task Unit (.acquire lock mode) = true) :
    Separate (pool.world.locks.acquire lock mode) := by
  unfold Separate at separate ⊢
  cases lock <;> cases mode <;> simp_all [LockTable.acquire, exclusive]

theorem Separate.release (separate : Separate locks) : Separate (locks.release lock mode) := by
  unfold Separate at separate ⊢
  simp only [LockTable.release]
  rcases separate with unread | ⟨tlsFree, teapFree⟩
  · exact .inl (by split <;> omega)
  · exact .inr ⟨by split <;> omega, by split <;> omega⟩

end Separation

section Main

variable (engine : TlsEngine Connection) (hmacs : Hmacs) (settings : Settings)

theorem lockInvariant_stable :
    Stable (handlerTasks engine hmacs settings) exclusive (lockOrder Connection) (fun _ => []) LockInvariant where
  conforms := handlerTasks_balanced
  started := fun world labels task ⟨accounts, separate⟩ _ => ⟨accounts.start task, separate⟩
  acted := by
    intro world threads left task held right Answer effect answer after _ ⟨accounts, separate⟩ permitted allowed performed
    have performed : Performs Answer effect world answer after := performed
    refine ⟨accounts_step accounts permitted performed, ?_⟩
    cases effect with
    | acquire lock mode =>
      obtain ⟨_, rfl⟩ := performed
      exact separate.acquire allowed
    | release lock mode =>
      cases performed
      exact separate.release
    | _ =>
      rw [locks_kept rfl performed]
      exact separate
  finished := by
    intro world left task held right ⟨accounts, separate⟩ rests
    cases rests
    exact ⟨accounts.finish, separate⟩

/-- Whatever calls run side by side, and however their steps are interleaved:
as long as readers of the session manager and writers of the method maps keep
apart, no set of them waits for itself. -/
theorem exclusive_deadlock_free {start : World Connection} (unlocked : start.locks = .unlocked)
    {pool : Pool (Effect Connection) Empty Task (World Connection)}
    (run : (handlerTasks engine hmacs settings).Reaches exclusive ⟨start, []⟩ pool) (threads : Set Nat) :
    ¬ Deadlocked locking sessionLocks pool threads := by
  intro deadlocked
  have initially : Holds (lockOrder Connection) LockInvariant
      (⟨start, []⟩ : Pool (Effect Connection) Empty Task (World Connection)) :=
    ⟨[], .nil, by rw [unlocked]; exact accounts_empty, .inl (by rw [unlocked]; rfl)⟩
  obtain ⟨labels, labelled, accounts, separate⟩ :=
    (lockInvariant_stable engine hmacs settings).reaches initially run
  obtain ⟨first, firstIn, second, secondIn, held, heldWatched, wanted, _, last, _, heldIn, _, takenIn, _, holds,
    mayWant, taken, mayLast⟩ := deadlocked.chain labelled
  -- a thread in its method's map and one that reads the session manager exclude each other
  have apart : ∀ reader ∈ labels, ∀ writer ∈ labels, (Lock.sessionManager, LockMode.read) ∈ reader.2 →
      ((Lock.tlsSessions, LockMode.write) ∈ writer.2 ∨ (Lock.teapSessions, LockMode.write) ∈ writer.2) → False := by
    intro reader readerIn writer writerIn reads writes
    have reading := accounts.positive readerIn reads
    rcases separate with unread | ⟨tlsFree, teapFree⟩
    · omega
    · rcases writes with writes | writes
      · have writing := accounts.positive writerIn writes
        omega
      · have writing := accounts.positive writerIn writes
        omega
  rcases mayTake_cases mayWant with none | config | ⟨reads, wantsMethod⟩ | ⟨writes, rfl, _⟩
  · simp [none] at holds
  · simp only [config, List.mem_singleton, Prod.mk.injEq] at holds
    simp [holds.1, sessionLocks] at heldWatched
  · rcases mayTake_cases mayLast with none | config | ⟨alsoReads, _⟩ | ⟨writes, _, _⟩
    · simp [none] at taken
    · rcases wantsMethod with rfl | rfl <;> simp [config] at taken
    · rcases wantsMethod with rfl | rfl <;> simp [alsoReads] at taken
    · exact apart first firstIn second secondIn (by simp [reads]) writes
  · rcases mayTake_cases mayLast with none | config | ⟨reads, _⟩ | ⟨_, _, unread⟩
    · simp [none] at taken
    · simp [config] at taken
    · exact apart second secondIn first firstIn (by simp [reads]) writes
    · exact unread _ taken

end Main

/-! ## A Nak and a Response that wait for each other -/

open TlsEngine (PlainConnection plain)

variable {index : Nat}

def sampleRequest (eapMessage : Octets) (state : List Octets) : Packet where
  code := .accessRequest
  identifier := 0
  authenticator := .zero 16
  attributes := ⟨AttributeType.userName.asU8, utf8 "alice"⟩ :: ⟨AttributeType.eapMessage.asU8, eapMessage⟩ ::
    state.map fun value => ⟨AttributeType.state.asU8, value⟩

def sampleIdentity : Arrival :=
  ⟨sampleRequest [2, 0, 0, 6, 1, 97] [], none, by decide⟩

def sampleNak : Arrival :=
  ⟨sampleRequest [2, 1, 0, 6, 3, 13] [List.replicate 16 0], none, by decide⟩

def sampleTlsData : Arrival :=
  ⟨sampleRequest [2, 1, 0, 7, 13, 0, 22] [List.replicate 16 1], none, by decide⟩

def sampleSettings : Settings where
  tlsConfigs := AList.singleton "" ⟨0⟩
  maxFragmentSize := 1020
  teapMaxPhase2Rounds := none

def sampleSurroundings (octet : UInt8) : Surroundings PlainConnection where
  time := 0
  state := some ⟨List.replicate 16 octet, by simp [stateLength]⟩
  nonce := .zero 32
  opened := .ok ⟨true, [], []⟩
  password := none

abbrev SampleTurn := Turn Task (Surroundings PlainConnection)

abbrev samplePool : Pool (Effect PlainConnection) Empty Task (World PlainConnection) :=
  ⟨.initial 120 4096, []⟩

/-- Two conversations are started; a Nak claims its Response in the first, and
the second is about to take an Identifier while it holds the TLS sessions. -/
def sampleApproach : List SampleTurn :=
  [.start (.authenticate sampleIdentity)] ++ List.replicate 34 (.act 0 (sampleSurroundings 0)) ++ [.finish 0] ++
    [.start (.authenticate sampleIdentity)] ++ List.replicate 34 (.act 0 (sampleSurroundings 1)) ++ [.finish 0] ++
    [.start (.authenticate sampleNak)] ++ List.replicate 7 (.act 0 (sampleSurroundings 2)) ++
    [.start (.authenticate sampleTlsData)] ++ List.replicate 14 (.act 0 (sampleSurroundings 2))

def sampleCollision : List SampleTurn :=
  sampleApproach ++ List.replicate 2 (.act 1 (sampleSurroundings 2))

/-- Effects that neither wait nor are ruled out by `guard`. -/
def going (guard : Guard (Effect Connection) Empty Task (World Connection)) :
    Guard (Effect Connection) Empty Task (World Connection) :=
  fun pool task Answer effect => unblocked pool.world Answer effect && guard pool task Answer effect

theorem going_reaches {guard : Guard (Effect Connection) Empty Task (World Connection)}
    {turns : List (Turn Task (Surroundings Connection))}
    {later : Pool (Effect Connection) Empty Task (World Connection)}
    (followed : follow (handlerTasks engine hmacs settings) (going guard) perform turns pool = some later) :
    (handlerTasks engine hmacs settings).Reaches guard pool later := by
  have run : (handlerTasks engine hmacs settings).Reaches (going guard) pool later := by
    apply follow_reaches_allowed ?_ followed
    intro around pool task Answer effect goes
    exact perform_performs around pool.world Answer effect (Bool.and_eq_true_iff.mp goes).1
  exact run.mono fun _ _ _ _ goes => (Bool.and_eq_true_iff.mp goes).2

def wantsAt (pool : Pool (Effect PlainConnection) Empty Task (World PlainConnection)) (index : Nat) (lock : Lock)
    (mode : LockMode) : Bool :=
  match pool.threads[index]? with
  | some ⟨_, .perform effect _⟩ => locking _ effect == some (.acquire lock mode)
  | _ => false

def owesAt (pool : Pool (Effect PlainConnection) Empty Task (World PlainConnection)) (index : Nat) (lock : Lock)
    (mode : LockMode) : Bool :=
  match pool.threads[index]? with
  | some thread => releasesFirst locking (perform (sampleSurroundings 2)) lock mode thread.program pool.world
  | none => false

theorem waitsFor_of_wantsAt {pool : Pool (Effect PlainConnection) Empty Task (World PlainConnection)}
    (wants : wantsAt pool index lock mode = true) : WaitsFor locking pool index lock mode := by
  unfold wantsAt at wants
  split at wants
  · rename_i task Answer effect next found
    exact ⟨_, found, by simpa [Wants] using wants⟩
  · cases wants

theorem holdsLock_of_owesAt {pool : Pool (Effect PlainConnection) Empty Task (World PlainConnection)}
    (owes : owesAt pool index lock mode = true) : HoldsLock locking pool index lock mode := by
  unfold owesAt at owes
  split at owes
  · rename_i thread found
    exact ⟨thread, found, owes_of_releasesFirst owes⟩
  · cases owes

theorem sampleApproach_deadlock_free :
    ∃ pool, follow (handlerTasks plain .checksum sampleSettings) (going exclusive) perform sampleApproach samplePool =
        some pool ∧
      WaitsFor locking pool 0 .sessionManager .write ∧ HoldsLock locking pool 0 .tlsSessions .write ∧
      ∀ threads, ¬ Deadlocked locking sessionLocks pool threads := by
  have ran : ((follow (handlerTasks plain .checksum sampleSettings) (going exclusive) perform sampleApproach
      samplePool).any fun pool =>
        wantsAt pool 0 .sessionManager .write && owesAt pool 0 .tlsSessions .write) = true := by
    decide +kernel
  obtain ⟨pool, reached, stands⟩ := (Option.any_eq_true _ _).mp ran
  obtain ⟨wants, owes⟩ := Bool.and_eq_true_iff.mp stands
  exact ⟨pool, reached, waitsFor_of_wantsAt wants, holdsLock_of_owesAt owes,
    exclusive_deadlock_free plain .checksum sampleSettings rfl (going_reaches reached)⟩

/-- The Nak holds the session manager and waits for the TLS sessions, which the
other call holds while it waits for the session manager. -/
theorem sampleCollision_deadlocked :
    ∃ pool, (handlerTasks plain .checksum sampleSettings).Reaches (fun _ _ _ _ => true) samplePool pool ∧
      Deadlocked locking sessionLocks pool {0, 1} := by
  have ran : ((follow (handlerTasks plain .checksum sampleSettings) (going fun _ _ _ _ => true) perform
      sampleCollision samplePool).any fun pool =>
        (wantsAt pool 0 .sessionManager .write && owesAt pool 1 .sessionManager .read) &&
          (wantsAt pool 1 .tlsSessions .read && owesAt pool 0 .tlsSessions .write)) = true := by
    decide +kernel
  obtain ⟨pool, reached, stand⟩ := (Option.any_eq_true _ _).mp ran
  simp only [Bool.and_eq_true] at stand
  obtain ⟨⟨continuing, read⟩, declining, written⟩ := stand
  refine ⟨pool, going_reaches reached, ⟨0, by simp⟩, ?_⟩
  intro waiting member
  rcases member with rfl | rfl
  · exact ⟨1, by simp, by decide, .sessionManager, by simp [sessionLocks], .write, .read,
      waitsFor_of_wantsAt continuing, holdsLock_of_owesAt read, .inl rfl⟩
  · exact ⟨0, by simp, by decide, .tlsSessions, by simp [sessionLocks], .read, .write,
      waitsFor_of_wantsAt declining, holdsLock_of_owesAt written, .inr (.inl rfl)⟩

end UsgRadius.Eap.EapAuthHandler
