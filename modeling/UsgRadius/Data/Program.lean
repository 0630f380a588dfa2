import UsgRadius.Data.Results
import Mathlib.Logic.Relation

namespace UsgRadius.Data

/-! Programs that act on a shared world one effect at a time and may fail. A
program is run on its own from start to end, or its effects are interleaved
with those of other programs. -/

inductive Program (Effect : Type → Type) (Failure Value : Type) : Type 1 where
  | done (outcome : Except Failure Value)
  | perform {Answer : Type} (effect : Effect Answer) (next : Answer → Program Effect Failure Value)

namespace Program

variable {Effect : Type → Type} {Failure Value Next World Answer : Type}

/-- An error ends the program, as the `?` operator does. -/
protected def bind : Program Effect Failure Value → (Value → Program Effect Failure Next) →
    Program Effect Failure Next
  | done (.ok value), next => next value
  | done (.error reason), _ => done (.error reason)
  | perform effect answer, next => perform effect fun reply => (answer reply).bind next

instance : Monad (Program Effect Failure) where
  pure := fun value => done (.ok value)
  bind := Program.bind

def ask {Answer : Type} (effect : Effect Answer) : Program Effect Failure Answer :=
  perform effect fun answer => done (.ok answer)

/-- `result?`. -/
def check (result : Except Failure Value) : Program Effect Failure Value :=
  done result

def fail (reason : Failure) : Program Effect Failure Value :=
  done (.error reason)

def attempt : Program Effect Failure Value → Program Effect Failure (Except Failure Value)
  | done outcome => done (.ok outcome)
  | perform effect next => perform effect fun answer => (next answer).attempt

@[simp] theorem pure_eq (value : Value) : (pure value : Program Effect Failure Value) = done (.ok value) := rfl

@[simp] theorem fail_eq (reason : Failure) : (fail reason : Program Effect Failure Value) = done (.error reason) := rfl

@[simp] theorem ok_bind (value : Value) (next : Value → Program Effect Failure Next) :
    (done (.ok value) >>= next) = next value := rfl

@[simp] theorem error_bind (reason : Failure) (next : Value → Program Effect Failure Next) :
    (done (.error reason) >>= next) = done (.error reason) := rfl

@[simp] theorem perform_bind (effect : Effect Answer) (answer : Answer → Program Effect Failure Value)
    (next : Value → Program Effect Failure Next) :
    (perform effect answer >>= next) = perform effect fun reply => answer reply >>= next := rfl

@[simp] theorem ask_bind (effect : Effect Answer) (next : Answer → Program Effect Failure Next) :
    (ask effect >>= next) = perform effect next := rfl

/-- What an effect may answer and do to the world. -/
abbrev Semantics (Effect : Type → Type) (World : Type) :=
  (Answer : Type) → Effect Answer → World → Answer → World → Prop

/-- A whole run of one program with nothing in between. -/
inductive Runs (step : Semantics Effect World) :
    Program Effect Failure Value → World → Except Failure Value → World → Prop
  | done {outcome : Except Failure Value} {world : World} : Runs step (done outcome) world outcome world
  | perform {Answer : Type} {effect : Effect Answer} {next : Answer → Program Effect Failure Value}
      {before middle after : World} {answer : Answer} {outcome : Except Failure Value}
      (first : step Answer effect before answer middle) (rest : Runs step (next answer) middle outcome after) :
      Runs step (perform effect next) before outcome after

section Runs

variable {step : Semantics Effect World} {before after : World} {outcome result : Except Failure Value} {Answer : Type}
  {effect : Effect Answer} {program : Program Effect Failure Value} {next : Value → Program Effect Failure Next}

@[simp] theorem runs_done : Runs step (done result) before outcome after ↔ outcome = result ∧ after = before :=
  ⟨fun run => by cases run; exact ⟨rfl, rfl⟩, fun ⟨same, still⟩ => by subst same still; exact .done⟩

@[simp] theorem runs_perform {next : Answer → Program Effect Failure Value} :
    Runs step (perform effect next) before outcome after ↔
      ∃ answer middle, step Answer effect before answer middle ∧ Runs step (next answer) middle outcome after :=
  ⟨fun run => by cases run with | perform first rest => exact ⟨_, _, first, rest⟩,
    fun ⟨_, _, first, rest⟩ => .perform first rest⟩

theorem runs_ask {outcome : Except Failure Answer} :
    Runs step (ask effect) before outcome after ↔
      ∃ answer, outcome = .ok answer ∧ step Answer effect before answer after := by
  simp only [ask, runs_perform, runs_done]
  refine ⟨?_, ?_⟩
  · grind
  · grind

theorem runs_bind {outcome : Except Failure Next} :
    Runs step (program >>= next) before outcome after ↔
      (∃ reason, outcome = .error reason ∧ Runs step program before (.error reason) after) ∨
      ∃ value middle, Runs step program before (.ok value) middle ∧
        Runs step (next value) middle outcome after := by
  induction program generalizing before with
  | done result => cases result <;> simp
  | perform effect answer ih =>
    simp only [perform_bind, runs_perform, ih]
    refine ⟨?_, ?_⟩
    · grind
    · grind

theorem Runs.project {Other : Type} {other : Semantics Effect Other} {view : World → Other}
    {program : Program Effect Failure Value}
    (sound : ∀ Answer (effect : Effect Answer) world answer next, step Answer effect world answer next →
      other Answer effect (view world) answer (view next))
    (run : Runs step program before outcome after) : Runs other program (view before) outcome (view after) := by
  induction run with
  | done => exact .done
  | perform first _ ih => exact .perform (sound _ _ _ _ _ first) ih

theorem runs_bind_ok {value : Next} :
    Runs step (program >>= next) before (.ok value) after ↔
      ∃ first middle, Runs step program before (.ok first) middle ∧ Runs step (next first) middle (.ok value) after := by
  simp [runs_bind]

theorem runs_check : Runs step (check result) before outcome after ↔ result = outcome ∧ after = before := by
  rw [check, runs_done, eq_comm]

theorem runs_check_bind {value : Except Failure Value} {outcome : Except Failure Next} :
    Runs step (check value >>= next) before outcome after ↔
      (∃ reason, value = .error reason ∧ outcome = .error reason ∧ after = before) ∨
      ∃ passed, value = .ok passed ∧ Runs step (next passed) before outcome after := by
  cases value <;> simp [check]

theorem runs_attempt_bind {next : Except Failure Value → Program Effect Failure Next} {outcome : Except Failure Next} :
    Runs step (attempt program >>= next) before outcome after ↔
      ∃ result middle, Runs step program before result middle ∧ Runs step (next result) middle outcome after := by
  induction program generalizing before with
  | done result => simp [attempt]
  | perform effect answer ih =>
    simp only [attempt, perform_bind, runs_perform, ih]
    refine ⟨?_, ?_⟩
    · grind
    · grind

end Runs

/-- The run in which every effect is answered by `handle`. -/
def eval (handle : (Answer : Type) → Effect Answer → World → Answer × World) :
    Program Effect Failure Value → World → Except Failure Value × World
  | done outcome, world => (outcome, world)
  | perform effect next, world =>
    (next (handle _ effect world).1).eval handle (handle _ effect world).2

section Eval

variable {handle : (Answer : Type) → Effect Answer → World → Answer × World}

@[simp] theorem eval_done (outcome : Except Failure Value) (world : World) :
    (done outcome : Program Effect Failure Value).eval handle world = (outcome, world) := rfl

@[simp] theorem eval_perform (effect : Effect Answer) (next : Answer → Program Effect Failure Value) (world : World) :
    (perform effect next).eval handle world =
      (next (handle Answer effect world).1).eval handle (handle Answer effect world).2 := rfl

theorem eval_bind (program : Program Effect Failure Value) (next : Value → Program Effect Failure Next) (world : World) :
    (program >>= next).eval handle world =
      match program.eval handle world with
      | (.ok value, after) => (next value).eval handle after
      | (.error reason, after) => (.error reason, after) := by
  induction program generalizing world with
  | done outcome => cases outcome <;> rfl
  | perform effect answer ih => exact ih _ _

theorem eval_attempt (program : Program Effect Failure Value) (world : World) :
    program.attempt.eval handle world = (.ok (program.eval handle world).1, (program.eval handle world).2) := by
  induction program generalizing world with
  | done outcome => rfl
  | perform effect next ih => exact ih _ _

end Eval

variable {step : Semantics Effect World}

theorem eval_runs {handle : (Answer : Type) → Effect Answer → World → Answer × World}
    (sound : ∀ Answer (effect : Effect Answer) world,
      step Answer effect world (handle Answer effect world).1 (handle Answer effect world).2)
    (program : Program Effect Failure Value) (world : World) :
    Runs step program world (program.eval handle world).1 (program.eval handle world).2 := by
  induction program generalizing world with
  | done outcome => exact .done
  | perform effect next ih => exact .perform (sound _ effect world) (ih _ _)

/-- The run in which every effect is answered by `handle`, if none of them has to
wait for ever. -/
def exec (handle : (Answer : Type) → Effect Answer → World → Option (Answer × World)) :
    Program Effect Failure Value → World → Option (Except Failure Value × World)
  | done outcome, world => some (outcome, world)
  | perform effect next, world =>
    match handle _ effect world with
    | none => none
    | some (answer, after) => (next answer).exec handle after

section Exec

variable {handle : (Answer : Type) → Effect Answer → World → Option (Answer × World)} {world after : World}
  {program : Program Effect Failure Value} {next : Value → Program Effect Failure Next}

theorem exec_pure (value : Value) (world : World) :
    (pure value : Program Effect Failure Value).exec handle world = some (.ok value, world) := rfl

theorem exec_ask {effect : Effect Answer} {answer : Answer} {next : Answer → Program Effect Failure Value}
    (handled : handle Answer effect world = some (answer, after)) :
    (ask effect >>= next).exec handle world = (next answer).exec handle after := by
  simp only [ask_bind, exec, handled]

theorem exec_bind {value : Value} (first : program.exec handle world = some (.ok value, after)) :
    (program >>= next).exec handle world = (next value).exec handle after := by
  induction program generalizing world with
  | done outcome =>
    cases first
    rfl
  | @perform Answer effect answer ih =>
    simp only [perform_bind, exec] at first ⊢
    cases handled : handle Answer effect world with
    | none => simp [handled] at first
    | some reply =>
      simp only [handled] at first ⊢
      exact ih _ first

theorem exec_bind_none (first : program.exec handle world = none) : (program >>= next).exec handle world = none := by
  induction program generalizing world with
  | done outcome => cases first
  | @perform Answer effect answer ih =>
    simp only [perform_bind, exec] at first ⊢
    cases handled : handle Answer effect world with
    | none => rfl
    | some reply =>
      simp only [handled] at first ⊢
      exact ih _ first

theorem exec_runs {outcome : Except Failure Value}
    (sound : ∀ Answer (effect : Effect Answer) world answer after, handle Answer effect world = some (answer, after) →
      step Answer effect world answer after) (ran : program.exec handle world = some (outcome, after)) :
    Runs step program world outcome after := by
  induction program generalizing world with
  | done result =>
    cases ran
    exact .done
  | @perform Answer effect next ih =>
    simp only [exec] at ran
    split at ran
    · cases ran
    · rename_i answer between handled
      exact .perform (sound Answer effect world answer between handled) (ih _ ran)

end Exec

end Program

end UsgRadius.Data
