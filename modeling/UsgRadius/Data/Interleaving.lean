import UsgRadius.Data.Program
import Mathlib.Data.List.Forall2

namespace UsgRadius.Data

/-! Interleavings of programs at the granularity of single effects, and a rule
for their invariants: every program follows a protocol of its own, and the
invariant speaks of the world and of where in its protocol each thread is. -/

structure Thread (Effect : Type → Type) (Failure Task : Type) : Type 1 where
  task : Task
  program : Program Effect Failure Unit

structure Pool (Effect : Type → Type) (Failure Task World : Type) : Type 1 where
  world : World
  threads : List (Thread Effect Failure Task)

/-- What tasks there are, when one may be started beside those running, and
what effects do. -/
structure System (Effect : Type → Type) (Failure Task World : Type) : Type 1 where
  start : Task → Program Effect Failure Unit
  mayStart : List Task → Task → Bool
  step : Program.Semantics Effect World

abbrev Guard (Effect : Type → Type) (Failure Task World : Type) :=
  Pool Effect Failure Task World → Task → (Answer : Type) → Effect Answer → Bool

namespace System

variable {Effect : Type → Type} {Failure Task World : Type}

inductive Step (system : System Effect Failure Task World) (allowed : Guard Effect Failure Task World) :
    Pool Effect Failure Task World → Pool Effect Failure Task World → Prop
  | start {world : World} {threads : List (Thread Effect Failure Task)} {task : Task}
      (may : system.mayStart (threads.map Thread.task) task = true) :
      Step system allowed ⟨world, threads⟩ ⟨world, ⟨task, system.start task⟩ :: threads⟩
  | act {world after : World} {left right : List (Thread Effect Failure Task)} {task : Task} {Answer : Type}
      {effect : Effect Answer} {next : Answer → Program Effect Failure Unit} {answer : Answer}
      (may : allowed ⟨world, left ++ ⟨task, .perform effect next⟩ :: right⟩ task Answer effect = true)
      (performed : system.step Answer effect world answer after) :
      Step system allowed ⟨world, left ++ ⟨task, .perform effect next⟩ :: right⟩
        ⟨after, left ++ ⟨task, next answer⟩ :: right⟩
  | finish {world : World} {left right : List (Thread Effect Failure Task)} {task : Task}
      {outcome : Except Failure Unit} :
      Step system allowed ⟨world, left ++ ⟨task, .done outcome⟩ :: right⟩ ⟨world, left ++ right⟩

/-- The runs whose effects are all allowed. -/
def Reaches (system : System Effect Failure Task World) (allowed : Guard Effect Failure Task World) :
    Pool Effect Failure Task World → Pool Effect Failure Task World → Prop :=
  Relation.ReflTransGen (system.Step allowed)

theorem Reaches.mono {system : System Effect Failure Task World} {allowed wider : Guard Effect Failure Task World}
    {pool later : Pool Effect Failure Task World} (implies : ∀ pool task Answer (effect : Effect Answer),
      allowed pool task Answer effect = true → wider pool task Answer effect = true)
    (run : system.Reaches allowed pool later) : system.Reaches wider pool later := by
  induction run with
  | refl => exact .refl
  | tail _ step ih =>
    apply Relation.ReflTransGen.tail ih
    cases step with
    | start may => exact .start may
    | act may performed => exact .act (implies _ _ _ _ may) performed
    | finish => exact .finish

end System

/-- What a program may do next in each state of its protocol, and where that
leads; `rests` are the states it may end in. -/
structure Protocol (Effect : Type → Type) (State : Type) where
  permits : State → (Answer : Type) → Effect Answer → Prop
  advance : State → (Answer : Type) → Effect Answer → Answer → State
  rests : State → Prop

namespace Protocol

variable {Effect : Type → Type} {Failure Value Next State : Type}

/-- The programs that keep to both. -/
def both {Other : Type} (one : Protocol Effect State) (two : Protocol Effect Other) : Protocol Effect (State × Other) where
  permits state Answer effect := one.permits state.1 Answer effect ∧ two.permits state.2 Answer effect
  advance state Answer effect answer := (one.advance state.1 Answer effect answer, two.advance state.2 Answer effect answer)
  rests state := one.rests state.1 ∧ two.rests state.2

/-- From `state` on the program keeps to the protocol and ends as `post` says. -/
def Follows (protocol : Protocol Effect State) (post : State → Except Failure Value → Prop) :
    State → Program Effect Failure Value → Prop
  | state, .done outcome => post state outcome
  | state, .perform effect next =>
    protocol.permits state _ effect ∧
      ∀ answer, Follows protocol post (protocol.advance state _ effect answer) (next answer)

section Rules

variable {protocol : Protocol Effect State} {post : State → Except Failure Value → Prop} {state : State}
  {outcome : Except Failure Value} {Answer World Other : Type} {effect : Effect Answer}
  {next : Value → Program Effect Failure Next} {program : Program Effect Failure Value} {before after : World}
  {second : Protocol Effect Other}

theorem Follows.mono {weaker : State → Except Failure Value → Prop} (follows : protocol.Follows post state program)
    (implies : ∀ state outcome, post state outcome → weaker state outcome) : protocol.Follows weaker state program := by
  induction program generalizing state with
  | done outcome => exact implies _ _ follows
  | perform effect next ih => exact ⟨follows.1, fun answer => ih answer (follows.2 answer)⟩

theorem Follows.bind {post : State → Except Failure Next → Prop} (follows : protocol.Follows (fun state outcome =>
      match outcome with
      | .ok value => protocol.Follows post state (next value)
      | .error reason => post state (.error reason)) state program) :
    protocol.Follows post state (program >>= next) := by
  induction program generalizing state with
  | done outcome => cases outcome <;> exact follows
  | perform effect answer ih => exact ⟨follows.1, fun reply => ih reply (follows.2 reply)⟩

theorem Follows.stay {post : State → Except Failure Next → Prop}
    (stays : protocol.Follows (fun after _ => after = state) state program)
    (failed : ∀ reason, post state (.error reason)) (passed : ∀ value, protocol.Follows post state (next value)) :
    protocol.Follows post state (program >>= next) := by
  apply Follows.bind
  refine stays.mono ?_
  intro after outcome same
  subst same
  cases outcome with
  | error reason => exact failed reason
  | ok value => exact passed value

theorem Follows.ask {next : Answer → Program Effect Failure Value} (permits : protocol.permits state Answer effect)
    (follows : ∀ answer, protocol.Follows post (protocol.advance state Answer effect answer) (next answer)) :
    protocol.Follows post state (Program.ask effect >>= next) :=
  ⟨permits, follows⟩

theorem Follows.check {result : Except Failure Value} {post : State → Except Failure Next → Prop}
    (failed : ∀ reason, post state (.error reason))
    (passed : ∀ value, result = .ok value → protocol.Follows post state (next value)) :
    protocol.Follows post state (Program.check result >>= next) := by
  cases result with
  | error reason => exact failed reason
  | ok value => exact passed value rfl

theorem Follows.attempt {post : State → Except Failure (Except Failure Value) → Prop}
    (follows : protocol.Follows (fun state outcome => post state (.ok outcome)) state program) :
    protocol.Follows post state program.attempt := by
  induction program generalizing state with
  | done outcome => exact follows
  | perform effect next ih => exact ⟨follows.1, fun answer => ih answer (follows.2 answer)⟩

theorem Follows.keeps {step : Program.Semantics Effect World} {Good : World → Prop}
    (follows : protocol.Follows post state program)
    (keeps : ∀ state Answer (effect : Effect Answer) world answer next, protocol.permits state Answer effect →
      step Answer effect world answer next → Good world → Good next)
    (run : Program.Runs step program before outcome after) (good : Good before) : Good after := by
  induction run generalizing state with
  | done => exact good
  | perform first _ ih => exact ih (follows.2 _) (keeps _ _ _ _ _ _ follows.1 first good)

theorem Follows.tracks {step : Program.Semantics Effect World} {Related : World → State → Prop}
    (follows : protocol.Follows post state program)
    (keeps : ∀ state Answer (effect : Effect Answer) world answer next, protocol.permits state Answer effect →
      step Answer effect world answer next → Related world state →
      Related next (protocol.advance state Answer effect answer)) (run : Program.Runs step program before outcome after)
    (related : Related before state) : ∃ final, Related after final ∧ post final outcome := by
  induction run generalizing state with
  | done => exact ⟨state, related, follows⟩
  | perform first _ ih => exact ih (follows.2 _) (keeps _ _ _ _ _ _ follows.1 first related)

theorem Follows.project {Wider : Type} {wider : Protocol Effect Wider} {post : Wider → Except Failure Value → Prop}
    (part : Wider → State) {program : Program Effect Failure Value} {state : Wider}
    (permits : ∀ state Answer (effect : Effect Answer), wider.permits state Answer effect →
      protocol.permits (part state) Answer effect) (advance : ∀ state Answer (effect : Effect Answer) answer,
      part (wider.advance state Answer effect answer) = protocol.advance (part state) Answer effect answer)
    (follows : wider.Follows post state program) :
    protocol.Follows (fun after outcome => ∃ whole, part whole = after ∧ post whole outcome) (part state) program := by
  induction program generalizing state with
  | done outcome => exact ⟨state, rfl, follows⟩
  | perform effect next ih =>
    refine ⟨permits _ _ _ follows.1, fun answer => ?_⟩
    rw [← advance]
    exact ih answer (follows.2 answer)

theorem Follows.left {post : State × Other → Except Failure Value → Prop} {state : State × Other}
    (follows : (protocol.both second).Follows post state program) :
    protocol.Follows (fun after outcome => ∃ whole, whole.1 = after ∧ post whole outcome) state.1 program := by
  apply follows.project Prod.fst
  · exact fun _ _ _ permitted => permitted.1
  · exact fun _ _ _ _ => rfl

theorem Follows.right {post : State × Other → Except Failure Value → Prop} {state : State × Other}
    (follows : (protocol.both second).Follows post state program) :
    second.Follows (fun after outcome => ∃ whole, whole.2 = after ∧ post whole outcome) state.2 program := by
  apply follows.project Prod.snd
  · exact fun _ _ _ permitted => permitted.2
  · exact fun _ _ _ _ => rfl

theorem Follows.runs {after : State} (follows : protocol.Follows post state program)
    (run : Program.Runs (fun Answer effect before answer next => next = protocol.advance before Answer effect answer)
      program state outcome after) : post after outcome := by
  induction run with
  | done => exact follows
  | perform first _ ih =>
    subst first
    exact ih (follows.2 _)

end Rules

def Conforms (protocol : Protocol Effect State) (state : State) (program : Program Effect Failure Unit) : Prop :=
  protocol.Follows (fun state _ => protocol.rests state) state program

variable {Other : Type} {one : Protocol Effect State} {two : Protocol Effect Other} {state : State × Other}
  {program : Program Effect Failure Unit}

theorem Conforms.left (conforms : (one.both two).Conforms state program) : one.Conforms state.1 program := by
  refine (Follows.left conforms).mono fun _ _ ended => ?_
  obtain ⟨whole, rfl, rests⟩ := ended
  exact rests.1

theorem Conforms.right (conforms : (one.both two).Conforms state program) : two.Conforms state.2 program := by
  refine (Follows.right conforms).mono fun _ _ ended => ?_
  obtain ⟨whole, rfl, rests⟩ := ended
  exact rests.2

def Labels {Task : Type} (protocol : Protocol Effect State) (labels : List (Task × State))
    (threads : List (Thread Effect Failure Task)) : Prop :=
  List.Forall₂ (fun label thread => label.1 = thread.task ∧ protocol.Conforms label.2 thread.program) labels threads

end Protocol

section Middle

variable {Item : Type} {left right : List Item} {item middle : Item}

theorem mem_beside (member : item ∈ left ++ right) : item ∈ left ++ middle :: right := by
  grind

theorem forall_mem_middle {property : Item → Prop} (own : property middle) (others : ∀ item ∈ left ++ right, property item) :
    ∀ item ∈ left ++ middle :: right, property item := by
  grind

theorem exists_mem_middle {property : Item → Prop} :
    (∃ item ∈ left ++ middle :: right, property item) ↔ property middle ∨ ∃ item ∈ left ++ right, property item := by
  simp only [List.mem_append, List.mem_cons, or_and_right, exists_or, exists_eq_left]
  exact or_left_comm

theorem alone_of_countP {property : Item → Bool} (own : property middle = true)
    (most : (left ++ middle :: right).countP property ≤ 1) : ∀ item ∈ left ++ right, property item = false := by
  have none : (left ++ right).countP property = 0 := by
    grind
  intro item member
  exact Bool.eq_false_iff.mpr (List.countP_eq_zero.mp none item member)

end Middle

section Invariant

variable {Effect : Type → Type} {Failure Task World State : Type} {system : System Effect Failure Task World}
  {allowed : Guard Effect Failure Task World} {protocol : Protocol Effect State} {first : Task → State}
  {Inv : World → List (Task × State) → Prop} {pool later : Pool Effect Failure Task World}
  {labels : List (Task × State)} {threads : List (Thread Effect Failure Task)}

/-- `Inv` holds for some labelling of the threads. -/
def Holds (protocol : Protocol Effect State) (Inv : World → List (Task × State) → Prop)
    (pool : Pool Effect Failure Task World) : Prop :=
  ∃ labels, protocol.Labels labels pool.threads ∧ Inv pool.world labels

structure Stable (system : System Effect Failure Task World) (allowed : Guard Effect Failure Task World)
    (protocol : Protocol Effect State) (first : Task → State) (Inv : World → List (Task × State) → Prop) : Prop where
  conforms : ∀ task, protocol.Conforms (first task) (system.start task)
  started : ∀ world labels task, Inv world labels → system.mayStart (labels.map Prod.fst) task = true →
    Inv world ((task, first task) :: labels)
  acted : ∀ world threads left task state right Answer (effect : Effect Answer) answer after,
    protocol.Labels (left ++ (task, state) :: right) threads → Inv world (left ++ (task, state) :: right) →
    protocol.permits state Answer effect → allowed ⟨world, threads⟩ task Answer effect = true →
    system.step Answer effect world answer after →
    Inv after (left ++ (task, protocol.advance state Answer effect answer) :: right)
  finished : ∀ world left task state right, Inv world (left ++ (task, state) :: right) → protocol.rests state →
    Inv world (left ++ right)

/-- An invariant of the world, of each thread in it, and of every two threads. -/
structure Shared (Good : World → Prop) (Each : World → Task × State → Prop) (Apart : Task × State → Task × State → Prop)
    (world : World) (labels : List (Task × State)) : Prop where
  good : Good world
  each : ∀ label ∈ labels, Each world label
  apart : labels.Pairwise Apart

/-- Only the thread that acts, and what its step means to every other thread,
has to be looked at. -/
theorem Shared.stable {Good : World → Prop} {Each : World → Task × State → Prop}
    {Apart : Task × State → Task × State → Prop} (symm : ∀ {one other}, Apart one other → Apart other one)
    (conforms : ∀ task, protocol.Conforms (first task) (system.start task))
    (started : ∀ world labels task, Shared Good Each Apart world labels →
      system.mayStart (labels.map Prod.fst) task = true →
      Each world (task, first task) ∧ ∀ label ∈ labels, Apart (task, first task) label)
    (acted : ∀ world threads left task state right Answer (effect : Effect Answer) answer after,
      protocol.Labels (left ++ (task, state) :: right) threads → Good world → Each world (task, state) →
      (∀ label ∈ left ++ right, Each world label ∧ Apart (task, state) label) →
      protocol.permits state Answer effect → allowed ⟨world, threads⟩ task Answer effect = true →
      system.step Answer effect world answer after →
      Good after ∧ Each after (task, protocol.advance state Answer effect answer) ∧
        ∀ label ∈ left ++ right, Each after label ∧ Apart (task, protocol.advance state Answer effect answer) label) :
    Stable system allowed protocol first (Shared Good Each Apart) where
  conforms := conforms
  started world labels task shared may := by
    obtain ⟨own, others⟩ := started world labels task shared may
    exact ⟨shared.good, List.forall_mem_cons.mpr ⟨own, shared.each⟩, List.pairwise_cons.mpr ⟨others, shared.apart⟩⟩
  acted world threads left task state right Answer effect answer after labelled shared permits allowed performed := by
    have apart := List.pairwise_cons.mp ((List.pairwise_middle symm).mp shared.apart)
    obtain ⟨good, own, others⟩ := acted world threads left task state right Answer effect answer after labelled
      shared.good (shared.each _ (List.mem_append_right _ List.mem_cons_self))
      (fun label member => ⟨shared.each label (mem_beside member), apart.1 label member⟩) permits allowed performed
    exact ⟨good, forall_mem_middle own fun label member => (others label member).1, (List.pairwise_middle symm).mpr
      (List.pairwise_cons.mpr ⟨fun label member => (others label member).2, apart.2⟩)⟩
  finished world left task state right shared _ :=
    ⟨shared.good, fun label member => shared.each label (mem_beside member),
      shared.apart.sublist ((List.sublist_cons_self _ _).append_left left)⟩

theorem Labels.tasks (labelled : protocol.Labels labels threads) : labels.map Prod.fst = threads.map Thread.task := by
  induction labelled with
  | nil => rfl
  | cons head _ ih => simp only [List.map_cons, ih, head.1]

theorem Labels.thread {label : Task × State} (labelled : protocol.Labels labels threads) (member : label ∈ labels) :
    ∃ thread ∈ threads, label.1 = thread.task ∧ protocol.Conforms label.2 thread.program := by
  induction labelled with
  | nil => cases member
  | @cons _ first _ _ head _ ih =>
    grind

theorem Labels.split {labels : List (Task × State)} {left right : List (Thread Effect Failure Task)}
    {thread : Thread Effect Failure Task} (labelled : protocol.Labels labels (left ++ thread :: right)) :
    ∃ before state after, labels = before ++ (thread.task, state) :: after ∧ protocol.Labels before left ∧
      protocol.Conforms state thread.program ∧ protocol.Labels after right := by
  induction left generalizing labels with
  | nil =>
    cases labelled with
    | @cons label _ after _ head tail =>
      obtain ⟨task, state⟩ := label
      obtain ⟨rfl, conforms⟩ := head
      exact ⟨[], state, after, rfl, .nil, conforms, tail⟩
  | cons other others ih =>
    cases labelled with
    | cons head tail =>
      obtain ⟨before, state, after, rfl, labelledLeft, conforms, labelledRight⟩ := ih tail
      exact ⟨_ :: before, state, after, rfl, .cons head labelledLeft, conforms, labelledRight⟩

theorem Stable.step (stable : Stable system allowed protocol first Inv) (holds : Holds protocol Inv pool)
    (step : system.Step allowed pool later) : Holds protocol Inv later := by
  obtain ⟨labels, labelled, inv⟩ := holds
  cases step with
  | start may =>
    refine ⟨_, .cons ⟨rfl, stable.conforms _⟩ labelled, stable.started _ _ _ inv ?_⟩
    rw [Labels.tasks labelled]
    exact may
  | @act _ _ _ _ task Answer effect _ answer may performed =>
    obtain ⟨before, state, after, rfl, labelledLeft, conforms, labelledRight⟩ := Labels.split labelled
    exact ⟨before ++ (task, protocol.advance state Answer effect answer) :: after,
      List.rel_append labelledLeft (.cons ⟨rfl, conforms.2 answer⟩ labelledRight),
      stable.acted _ _ _ _ _ _ _ _ _ _ labelled inv conforms.1 may performed⟩
  | finish =>
    obtain ⟨before, state, after, rfl, labelledLeft, conforms, labelledRight⟩ := Labels.split labelled
    exact ⟨_, List.rel_append labelledLeft labelledRight, stable.finished _ _ _ _ _ inv conforms⟩

theorem Stable.reaches (stable : Stable system allowed protocol first Inv) (holds : Holds protocol Inv pool)
    (run : system.Reaches allowed pool later) : Holds protocol Inv later := by
  induction run with
  | refl => exact holds
  | tail _ step ih => exact stable.step ih step

end Invariant

/-- One step of a schedule: start a task, let the thread at an index act in some
surroundings, or clear a finished thread away. -/
inductive Turn (Task Around : Type) where
  | start (task : Task)
  | act (index : Nat) (around : Around)
  | finish (index : Nat)

section Schedule

variable {Effect : Type → Type} {Failure Task World Around : Type}
  (system : System Effect Failure Task World) (allowed : Guard Effect Failure Task World)
  (handle : Around → (Answer : Type) → Effect Answer → World → Answer × World)

def takeTurn (pool : Pool Effect Failure Task World) : Turn Task Around → Option (Pool Effect Failure Task World)
  | .start task =>
    if system.mayStart (pool.threads.map Thread.task) task then
      some { pool with threads := ⟨task, system.start task⟩ :: pool.threads }
    else
      none
  | .act index around =>
    match pool.threads.drop index with
    | ⟨task, .perform effect next⟩ :: right =>
      if allowed pool task _ effect then
        let outcome := handle around _ effect pool.world
        some ⟨outcome.2, pool.threads.take index ++ ⟨task, next outcome.1⟩ :: right⟩
      else
        none
    | _ => none
  | .finish index =>
    match pool.threads.drop index with
    | ⟨_, .done _⟩ :: right => some { pool with threads := pool.threads.take index ++ right }
    | _ => none

def follow : List (Turn Task Around) → Pool Effect Failure Task World → Option (Pool Effect Failure Task World)
  | [], pool => some pool
  | turn :: rest, pool =>
    match takeTurn system allowed handle pool turn with
    | none => none
    | some next => follow rest next

variable {system allowed handle} {pool later : Pool Effect Failure Task World} {turns : List (Turn Task Around)}

/-- `handle` need only be right about the effects that are allowed. -/
theorem takeTurn_step {turn : Turn Task Around}
    (sound : ∀ around pool task Answer (effect : Effect Answer), allowed pool task Answer effect = true →
      system.step Answer effect pool.world (handle around Answer effect pool.world).1
        (handle around Answer effect pool.world).2)
    (taken : takeTurn system allowed handle pool turn = some later) : system.Step allowed pool later := by
  obtain ⟨world, threads⟩ := pool
  cases turn with
  | start task =>
    simp only [takeTurn] at taken
    split at taken
    · rename_i may
      cases taken
      exact .start may
    · cases taken
  | act index around =>
    simp only [takeTurn] at taken
    split at taken
    · rename_i task Answer effect next right split
      split at taken
      · rename_i may
        cases taken
        have whole : threads = threads.take index ++ ⟨task, .perform effect next⟩ :: right := by
          rw [← split, List.take_append_drop]
        generalize threads.take index = left at whole ⊢
        subst whole
        exact .act may (sound _ _ _ _ _ may)
      · cases taken
    · cases taken
  | finish index =>
    simp only [takeTurn] at taken
    split at taken
    · rename_i task outcome right split
      cases taken
      have whole : threads = threads.take index ++ ⟨task, .done outcome⟩ :: right := by
        rw [← split, List.take_append_drop]
      generalize threads.take index = left at whole ⊢
      subst whole
      exact .finish
    · cases taken

theorem follow_reaches_allowed
    (sound : ∀ around pool task Answer (effect : Effect Answer), allowed pool task Answer effect = true →
      system.step Answer effect pool.world (handle around Answer effect pool.world).1
        (handle around Answer effect pool.world).2) (followed : follow system allowed handle turns pool = some later) :
    system.Reaches allowed pool later := by
  induction turns generalizing pool with
  | nil =>
    cases followed
    exact .refl
  | cons turn rest ih =>
    simp only [follow] at followed
    split at followed
    · cases followed
    · rename_i next taken
      exact .head (takeTurn_step sound taken) (ih followed)

theorem follow_reaches (sound : ∀ around Answer (effect : Effect Answer) world,
      system.step Answer effect world (handle around Answer effect world).1 (handle around Answer effect world).2)
    (followed : follow system allowed handle turns pool = some later) : system.Reaches allowed pool later :=
  follow_reaches_allowed (fun around pool _ Answer effect _ => sound around Answer effect pool.world) followed

end Schedule

end UsgRadius.Data
