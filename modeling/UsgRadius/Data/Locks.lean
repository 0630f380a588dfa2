import UsgRadius.Data.Interleaving
import Mathlib.Algebra.GroupWithZero.Nat
import Mathlib.Data.Set.Basic

namespace UsgRadius.Data

/-! Reader-writer locks in interleaved programs: who holds a lock, who waits for
one, and the sets of threads that wait for each other. -/

inductive LockMode where
  | read
  | write
deriving DecidableEq

abbrev LockTable (Lock : Type) := Lock → LockMode → Nat

inductive LockAction (Lock : Type) where
  | acquire (lock : Lock) (mode : LockMode)
  | release (lock : Lock) (mode : LockMode)
deriving DecidableEq

abbrev Locking (Effect : Type → Type) (Lock : Type) :=
  (Answer : Type) → Effect Answer → Option (LockAction Lock)

abbrev Held (Lock : Type) := List (Lock × LockMode)

namespace LockTable

variable {Lock : Type} [DecidableEq Lock]

def unlocked : LockTable Lock := fun _ _ => 0

/-- A writer excludes everyone, a reader the writers. A waiting writer may also
keep a new reader out; where it does, there are only fewer runs. -/
def free (table : LockTable Lock) (lock : Lock) : LockMode → Bool
  | .read => table lock .write == 0
  | .write => table lock .read == 0 && table lock .write == 0

def acquire (table : LockTable Lock) (lock : Lock) (mode : LockMode) : LockTable Lock :=
  fun other otherMode => if other = lock ∧ otherMode = mode then table other otherMode + 1 else table other otherMode

def release (table : LockTable Lock) (lock : Lock) (mode : LockMode) : LockTable Lock :=
  fun other otherMode => if other = lock ∧ otherMode = mode then table other otherMode - 1 else table other otherMode

omit [DecidableEq Lock] in
theorem free_unlocked (lock : Lock) (mode : LockMode) : (unlocked : LockTable Lock).free lock mode = true := by
  cases mode <;> rfl

theorem release_acquire (table : LockTable Lock) (lock : Lock) (mode : LockMode) :
    (table.acquire lock mode).release lock mode = table := by
  funext other otherMode
  simp only [release, acquire]
  split <;> rfl

theorem release_acquire_acquire (table : LockTable Lock) (first second : Lock) (mode : LockMode) :
    ((table.acquire first mode).acquire second mode).release first mode = table.acquire second mode := by
  funext other otherMode
  simp only [release, acquire]
  split <;> split <;> simp

end LockTable

section Waiting

variable {Effect : Type → Type} {Failure Value Task World Lock : Type} (locking : Locking Effect Lock)

/-- The program has to release the lock before it may take it again. -/
def Owes (lock : Lock) (mode : LockMode) : Program Effect Failure Value → Prop
  | .done _ => False
  | .perform effect next =>
    match locking _ effect with
    | some (.release other otherMode) =>
      (other = lock ∧ otherMode = mode) ∨ ∃ answer, Owes lock mode (next answer)
    | some (.acquire other _) => other ≠ lock ∧ ∃ answer, Owes lock mode (next answer)
    | none => ∃ answer, Owes lock mode (next answer)

/-- Whether the program comes to release the lock when `handle` answers its
effects. -/
def releasesFirst [DecidableEq Lock] (handle : (Answer : Type) → Effect Answer → World → Answer × World)
    (lock : Lock) (mode : LockMode) : Program Effect Failure Value → World → Bool
  | .done _, _ => false
  | .perform effect next, world =>
    let rest := releasesFirst handle lock mode (next (handle _ effect world).1) (handle _ effect world).2
    match locking _ effect with
    | some (.release other otherMode) => (decide (other = lock) && decide (otherMode = mode)) || rest
    | some (.acquire other _) => decide (other ≠ lock) && rest
    | none => rest

variable {locking} in
theorem owes_of_releasesFirst [DecidableEq Lock] {handle : (Answer : Type) → Effect Answer → World → Answer × World}
    {lock : Lock} {mode : LockMode} {program : Program Effect Failure Value} {world : World}
    (releases : releasesFirst locking handle lock mode program world = true) : Owes locking lock mode program := by
  induction program generalizing world with
  | done outcome => cases releases
  | @perform Answer effect next ih =>
    simp only [releasesFirst] at releases
    simp only [Owes]
    cases action : locking Answer effect with
    | none =>
      simp only [action] at releases
      exact ⟨_, ih _ releases⟩
    | some taken =>
      grind

def Wants (lock : Lock) (mode : LockMode) : Program Effect Failure Value → Prop
  | .done _ => False
  | .perform effect _ => locking _ effect = some (.acquire lock mode)

/-- The thread at an index waits for a lock. -/
def WaitsFor (pool : Pool Effect Failure Task World) (index : Nat) (lock : Lock) (mode : LockMode) : Prop :=
  ∃ thread, pool.threads[index]? = some thread ∧ Wants locking lock mode thread.program

/-- The thread at an index holds a lock. -/
def HoldsLock (pool : Pool Effect Failure Task World) (index : Nat) (lock : Lock) (mode : LockMode) : Prop :=
  ∃ thread, pool.threads[index]? = some thread ∧ Owes locking lock mode thread.program

/-- One thread waits for a lock that another holds. A reader waits for another
reader only behind a waiting writer. -/
def BlockedBy (pool : Pool Effect Failure Task World) (lock : Lock) (waiting holding : Nat) : Prop :=
  ∃ mode heldIn, WaitsFor locking pool waiting lock mode ∧ HoldsLock locking pool holding lock heldIn ∧
    (mode = .write ∨ heldIn = .write ∨ ∃ writer, WaitsFor locking pool writer lock .write)

/-- A set of threads each of which waits for one of the locks, held by another
thread of the set. -/
def Deadlocked (locks : Set Lock) (pool : Pool Effect Failure Task World) (threads : Set Nat) : Prop :=
  threads.Nonempty ∧ ∀ waiting ∈ threads, ∃ holding ∈ threads, holding ≠ waiting ∧
    ∃ lock ∈ locks, BlockedBy locking pool lock waiting holding

end Waiting

section Nesting

variable {Effect : Type → Type} {Failure Value Task World Lock : Type}

/-- Locks are released in the order opposite to that in which they were taken;
`mayTake` says which lock may be taken while others are held. -/
def nesting (locking : Locking Effect Lock) (mayTake : Held Lock → Lock → LockMode → Prop) :
    Protocol Effect (Held Lock) where
  permits := fun held Answer effect =>
    match locking Answer effect with
    | some (.acquire lock mode) => mayTake held lock mode
    | some (.release lock mode) => held.head? = some (lock, mode)
    | none => True
  advance := fun held Answer effect _ =>
    match locking Answer effect with
    | some (.acquire lock mode) => (lock, mode) :: held
    | some (.release _ _) => held.tail
    | none => held
  rests := fun held => held = []

variable {locking : Locking Effect Lock} {mayTake : Held Lock → Lock → LockMode → Prop}
  {post : Held Lock → Except Failure Value → Prop} {held : Held Lock} {program : Program Effect Failure Value}
  {lock : Lock} {mode : LockMode}

theorem held_of_owes (follows : (nesting locking mayTake).Follows post held program)
    (owes : Owes locking lock mode program) : (lock, mode) ∈ held := by
  induction program generalizing held with
  | done outcome => cases owes
  | @perform Answer effect next ih =>
    obtain ⟨permitted, continues⟩ := follows
    simp only [nesting] at permitted continues
    simp only [Owes] at owes
    cases action : locking Answer effect with
    | none =>
      simp only [action] at owes continues
      obtain ⟨answer, later⟩ := owes
      exact ih answer (continues answer) later
    | some taken =>
      cases taken with
      | acquire other otherMode =>
        simp only [action] at owes continues
        obtain ⟨different, answer, later⟩ := owes
        rcases List.mem_cons.mp (ih answer (continues answer) later) with same | before
        · exact absurd (Prod.mk.inj same).1.symm different
        · exact before
      | release other otherMode =>
        simp only [action] at owes continues permitted
        rcases owes with ⟨rfl, rfl⟩ | ⟨answer, later⟩
        · exact List.mem_of_mem_head? permitted
        · exact List.mem_of_mem_tail (ih answer (continues answer) later)

theorem mayTake_of_wants (follows : (nesting locking mayTake).Follows post held program)
    (wants : Wants locking lock mode program) : mayTake held lock mode := by
  cases program with
  | done outcome => cases wants
  | perform effect next =>
    have permitted := follows.1
    simp only [nesting, Wants] at permitted wants
    simpa only [wants] using permitted

/-- Some thread of a deadlocked set holds a lock and may take another, which is
held by a thread that may take a third. -/
theorem Deadlocked.chain {locks : Set Lock} {pool : Pool Effect Failure Task World} {threads : Set Nat}
    {labels : List (Task × Held Lock)} (labelled : (nesting locking mayTake).Labels labels pool.threads)
    (deadlocked : Deadlocked locking locks pool threads) :
    ∃ first ∈ labels, ∃ second ∈ labels, ∃ held ∈ locks, ∃ wanted ∈ locks, ∃ last ∈ locks,
      ∃ heldIn wantedIn takenIn lastIn, (held, heldIn) ∈ first.2 ∧ mayTake first.2 wanted wantedIn ∧
        (wanted, takenIn) ∈ second.2 ∧ mayTake second.2 last lastIn := by
  obtain ⟨⟨start, inSet⟩, circular⟩ := deadlocked
  have label : ∀ {index : Nat} {thread : Thread Effect Failure Task}, pool.threads[index]? = some thread →
      ∃ label, labels[index]? = some label ∧ (nesting locking mayTake).Conforms label.2 thread.program := by
    intro index thread found
    have inBounds : index < pool.threads.length := (List.getElem?_eq_some_iff.mp found).1
    have sameLength := List.Forall₂.length_eq labelled
    have labelBound : index < labels.length := by omega
    refine ⟨labels[index], List.getElem?_eq_getElem _, ?_⟩
    have conforms := (List.forall₂_iff_get.mp labelled).2 index labelBound inBounds
    have own : pool.threads[index] = thread := (List.getElem?_eq_some_iff.mp found).2
    simpa only [List.get_eq_getElem, own] using conforms.2
  obtain ⟨one, oneIn, _, held, heldWatched, _, heldIn, _, ⟨oneThread, oneFound, owesOne⟩, _⟩ := circular start inSet
  obtain ⟨two, twoIn, _, wanted, wantedWatched, wantedIn, takenIn, ⟨sameThread, sameFound, wantsOne⟩,
    ⟨twoThread, twoFound, owesTwo⟩, _⟩ := circular one oneIn
  obtain ⟨_, _, _, last, lastWatched, lastIn, _, ⟨againThread, againFound, wantsTwo⟩, _, _⟩ := circular two twoIn
  cases Option.some.inj (sameFound.symm.trans oneFound)
  cases Option.some.inj (againFound.symm.trans twoFound)
  obtain ⟨first, firstFound, firstConforms⟩ := label oneFound
  obtain ⟨second, secondFound, secondConforms⟩ := label twoFound
  exact ⟨first, List.mem_of_getElem? firstFound, second, List.mem_of_getElem? secondFound, held, heldWatched,
    wanted, wantedWatched, last, lastWatched, heldIn, wantedIn, takenIn, lastIn,
    held_of_owes firstConforms owesOne, mayTake_of_wants firstConforms wantsOne,
    held_of_owes secondConforms owesTwo, mayTake_of_wants secondConforms wantsTwo⟩

end Nesting

section Accounts

variable {Task Lock : Type} [DecidableEq Lock] {left right labels : List (Task × Held Lock)} {task : Task}
  {table : LockTable Lock} {held : Held Lock} {lock : Lock} {mode : LockMode} {label : Task × Held Lock}

def holders (labels : List (Task × Held Lock)) (lock : Lock) (mode : LockMode) : Nat :=
  (labels.map fun label => label.2.count (lock, mode)).sum

/-- The table counts the locks the threads hold. -/
def Accounts (table : LockTable Lock) (labels : List (Task × Held Lock)) : Prop :=
  ∀ lock mode, table lock mode = holders labels lock mode

@[simp] theorem holders_around (left right : List (Task × Held Lock)) (task : Task) (held : Held Lock) (lock : Lock)
    (mode : LockMode) :
    holders (left ++ (task, held) :: right) lock mode =
      holders left lock mode + (held.count (lock, mode) + holders right lock mode) := by
  simp [holders]

theorem accounts_empty : Accounts (LockTable.unlocked : LockTable Lock) ([] : List (Task × Held Lock)) :=
  fun _ _ => rfl

theorem Accounts.start (accounts : Accounts table labels) (task : Task) : Accounts table ((task, []) :: labels) := by
  intro lock mode
  simp [accounts lock mode, holders]

theorem Accounts.finish (accounts : Accounts table (left ++ (task, []) :: right)) : Accounts table (left ++ right) := by
  intro lock mode
  simp [accounts lock mode, holders]

theorem Accounts.acquire (accounts : Accounts table (left ++ (task, held) :: right)) :
    Accounts (table.acquire lock mode) (left ++ (task, (lock, mode) :: held) :: right) := by
  intro other otherMode
  have before := accounts other otherMode
  simp only [holders_around] at before
  simp only [LockTable.acquire, before, holders_around, List.count_cons, beq_iff_eq, Prod.mk.injEq]
  by_cases same : other = lock ∧ otherMode = mode
  · simp [same.1, same.2]
    omega
  · rw [if_neg same, if_neg fun equal => same ⟨equal.1.symm, equal.2.symm⟩]
    omega

theorem Accounts.release (accounts : Accounts table (left ++ (task, (lock, mode) :: held) :: right)) :
    Accounts (table.release lock mode) (left ++ (task, held) :: right) := by
  intro other otherMode
  have before := accounts other otherMode
  simp only [holders_around, List.count_cons, beq_iff_eq, Prod.mk.injEq] at before
  simp only [LockTable.release, before, holders_around]
  by_cases same : other = lock ∧ otherMode = mode
  · simp [same.1, same.2]
    omega
  · rw [if_neg same, if_neg fun equal => same ⟨equal.1.symm, equal.2.symm⟩]
    omega

theorem Accounts.positive (accounts : Accounts table labels) (member : label ∈ labels) (holds : (lock, mode) ∈ label.2) :
    0 < table lock mode := by
  obtain ⟨before, after, rfl⟩ := List.append_of_mem member
  have counted : 0 < label.2.count (lock, mode) := List.count_pos_iff.mpr holds
  rw [accounts lock mode, holders_around]
  omega

/-- A writer of a lock is alone with it. -/
def Exclusive (table : LockTable Lock) : Prop :=
  ∀ lock, table lock .write = 0 ∨ (table lock .write = 1 ∧ table lock .read = 0)

theorem Exclusive.acquire (alone : Exclusive table) (free : table.free lock mode = true) :
    Exclusive (table.acquire lock mode) := by
  intro other
  have before := alone other
  by_cases same : other = lock
  · subst same
    cases mode with
    | read =>
      have unwritten : table other .write = 0 := beq_iff_eq.mp free
      exact .inl (by simp [LockTable.acquire, unwritten])
    | write =>
      obtain ⟨unread, unwritten⟩ := Bool.and_eq_true_iff.mp free
      exact .inr ⟨by simp [LockTable.acquire, beq_iff_eq.mp unwritten], by simp [LockTable.acquire, beq_iff_eq.mp unread]⟩
  · simpa [LockTable.acquire, same] using before

theorem Exclusive.release (alone : Exclusive table) : Exclusive (table.release lock mode) := by
  intro other
  have before := alone other
  simp only [LockTable.release]
  split <;> split <;> omega

theorem Accounts.alone (accounts : Accounts table (left ++ (task, held) :: right)) (exclusive : Exclusive table)
    (writes : (lock, .write) ∈ held) (other : label ∈ left ++ right) : (lock, mode) ∉ label.2 := by
  intro holds
  have own : 0 < held.count (lock, .write) := List.count_pos_iff.mpr writes
  have theirs : 0 < holders (left ++ right) lock mode := by
    obtain ⟨before, behind, split⟩ := List.append_of_mem other
    rw [split, holders_around]
    have counted : 0 < label.2.count (lock, mode) := List.count_pos_iff.mpr holds
    omega
  have total : ∀ mode, table lock mode = held.count (lock, mode) + holders (left ++ right) lock mode := by
    intro mode
    rw [accounts lock mode, holders_around]
    simp only [holders, List.map_append, List.sum_append]
    omega
  have written := total .write
  have taken := total mode
  rcases exclusive lock with none | ⟨one, unread⟩
  · omega
  · cases mode with
    | read | write => omega

end Accounts

end UsgRadius.Data
