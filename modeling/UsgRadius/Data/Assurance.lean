import UsgRadius.Data.Interleaving

namespace UsgRadius.Data

/-! What a program can be sure of while others act on the same world. Worlds only
move on to later ones, effects are permitted by facts that last, and the answer
to an effect tells a fact about the world it leaves. -/

structure Discipline (Effect : Type → Type) (World : Type) where
  later : World → World → Prop
  refl : ∀ world, later world world
  trans : ∀ {first second third}, later first second → later second third → later first third
  permits : World → (Answer : Type) → Effect Answer → Prop
  lasts : ∀ {world after Answer} {effect : Effect Answer}, later world after → permits world Answer effect →
    permits after Answer effect
  tells : World → (Answer : Type) → Effect Answer → Answer → Prop

namespace Discipline

variable {Effect : Type → Type} {Failure Value Next World Task : Type}

/-- From `world` on, whatever others do in between, the program does only what
is permitted and ends as `post` says. -/
def Assures (discipline : Discipline Effect World) (post : World → Except Failure Value → Prop) :
    Program Effect Failure Value → World → Prop
  | .done outcome, world => post world outcome
  | .perform effect next, world =>
    discipline.permits world _ effect ∧ ∀ after, discipline.later world after → ∀ answer,
      discipline.tells after _ effect answer → Assures discipline post (next answer) after

def Lasting (discipline : Discipline Effect World) (fact : World → Prop) : Prop :=
  ∀ world after, discipline.later world after → fact world → fact after

section Rules

variable {discipline : Discipline Effect World} {post : World → Except Failure Value → Prop}
  {program : Program Effect Failure Value} {world after : World} {next : Value → Program Effect Failure Next}

theorem Assures.later (lasting : ∀ outcome, discipline.Lasting (post · outcome)) (moved : discipline.later world after)
    (assures : discipline.Assures post program world) : discipline.Assures post program after := by
  cases program with
  | done outcome => exact lasting outcome world after moved assures
  | perform effect next =>
    exact ⟨discipline.lasts moved assures.1,
      fun last further answer told => assures.2 last (discipline.trans moved further) answer told⟩

theorem Assures.mono {weaker : World → Except Failure Value → Prop} (assures : discipline.Assures post program world)
    (implies : ∀ after outcome, discipline.later world after → post after outcome → weaker after outcome) :
    discipline.Assures weaker program world := by
  induction program generalizing world with
  | done outcome => exact implies world outcome (discipline.refl world) assures
  | perform effect next ih =>
    refine ⟨assures.1, fun after moved answer told => ih answer (assures.2 after moved answer told) ?_⟩
    intro last outcome further holds
    exact implies last outcome (discipline.trans moved further) holds

theorem Assures.bind {post : World → Except Failure Next → Prop} (assures : discipline.Assures (fun after outcome =>
      match outcome with
      | .ok value => discipline.Assures post (next value) after
      | .error reason => post after (.error reason)) program world) :
    discipline.Assures post (program >>= next) world := by
  induction program generalizing world with
  | done outcome => cases outcome <;> exact assures
  | perform effect answer ih =>
    exact ⟨assures.1, fun after moved reply told => ih reply (assures.2 after moved reply told)⟩

theorem Assures.attempt {post : World → Except Failure (Except Failure Value) → Prop}
    (assures : discipline.Assures (fun after outcome => post after (.ok outcome)) program world) :
    discipline.Assures post program.attempt world := by
  induction program generalizing world with
  | done outcome => exact assures
  | perform effect next ih =>
    exact ⟨assures.1, fun after moved answer told => ih answer (assures.2 after moved answer told)⟩

theorem Assures.ask {Answer : Type} {effect : Effect Answer} {next : Answer → Program Effect Failure Value}
    (permits : discipline.permits world Answer effect)
    (assures : ∀ after, discipline.later world after → ∀ answer, discipline.tells after Answer effect answer →
      discipline.Assures post (next answer) after) : discipline.Assures post (Program.ask effect >>= next) world :=
  ⟨permits, assures⟩

theorem Assures.check {result : Except Failure Value} {post : World → Except Failure Next → Prop}
    (failed : ∀ reason, result = .error reason → post world (.error reason))
    (passed : ∀ value, result = .ok value → discipline.Assures post (next value) world) :
    discipline.Assures post (Program.check result >>= next) world := by
  cases result with
  | error reason => exact failed reason rfl
  | ok value => exact passed value rfl

end Rules

def Ensures (discipline : Discipline Effect World) (good : World → Value → Prop)
    (program : Program Effect Failure Value) (world : World) : Prop :=
  discipline.Assures (fun after outcome => ∀ value, outcome = .ok value → good after value) program world

namespace Ensures

variable {discipline : Discipline Effect World} {good : World → Value → Prop} {ends : World → Next → Prop}
  {program : Program Effect Failure Value} {world : World} {result : Except Failure Value}
  {next : Value → Program Effect Failure Next}

theorem pure {value : Value} (holds : good world value) :
    discipline.Ensures good (pure value : Program Effect Failure Value) world := by
  intro other same
  cases same
  exact holds

theorem fail {reason : Failure} : discipline.Ensures good (Program.fail reason) world := nofun

theorem check (holds : ∀ value, result = .ok value → good world value) :
    discipline.Ensures good (Program.check result) world := holds

theorem mono {weaker : World → Value → Prop} (ensures : discipline.Ensures good program world)
    (implies : ∀ after value, discipline.later world after → good after value → weaker after value) :
    discipline.Ensures weaker program world :=
  Assures.mono ensures fun after _ moved holds value succeeded => implies after value moved (holds value succeeded)

theorem bind (ensures : discipline.Ensures good program world)
    (rest : ∀ after, discipline.later world after → ∀ value, good after value →
      discipline.Ensures ends (next value) after) : discipline.Ensures ends (program >>= next) world := by
  apply Assures.bind
  refine Assures.mono ensures ?_
  intro after outcome moved holds
  cases outcome with
  | error reason => exact nofun
  | ok value => exact rest after moved value (holds value rfl)

theorem check_bind (rest : ∀ value, result = .ok value → discipline.Ensures ends (next value) world) :
    discipline.Ensures ends (Program.check result >>= next) world :=
  Assures.check (fun _ _ => nofun) rest

theorem attempt {next : Except Failure Value → Program Effect Failure Next}
    (ensures : discipline.Ensures good program world)
    (rest : ∀ after, discipline.later world after → ∀ result, (∀ value, result = .ok value → good after value) →
      discipline.Ensures ends (next result) after) : discipline.Ensures ends (program.attempt >>= next) world := by
  apply Assures.bind
  apply Assures.attempt
  exact Assures.mono ensures fun after result moved holds => rest after moved result holds

end Ensures

structure Sound (discipline : Discipline Effect World) (step : Program.Semantics Effect World) (Inv : World → Prop) :
    Prop where
  keeps : ∀ world Answer (effect : Effect Answer) answer after, Inv world → discipline.permits world Answer effect →
    step Answer effect world answer after →
      Inv after ∧ discipline.later world after ∧ discipline.tells after Answer effect answer

section Runs

variable {discipline : Discipline Effect World} {Inv : World → Prop}

theorem Sound.runs {step : Program.Semantics Effect World} (sound : discipline.Sound step Inv)
    {post : World → Except Failure Value → Prop} {program : Program Effect Failure Value} {world after : World}
    {outcome : Except Failure Value} (inv : Inv world)
    (assures : discipline.Assures post program world) (run : Program.Runs step program world outcome after) :
    Inv after ∧ post after outcome := by
  induction run with
  | done => exact ⟨inv, assures⟩
  | perform first _ ih =>
    obtain ⟨kept, moved, told⟩ := sound.keeps _ _ _ _ _ inv assures.1 first
    exact ih kept (assures.2 _ moved _ told)

variable {system : System Effect Failure Task World} {allowed : Guard Effect Failure Task World}
  {post : Task → World → Except Failure Unit → Prop} {pool next : Pool Effect Failure Task World}

def AllAssured (discipline : Discipline Effect World) (Inv : World → Prop)
    (post : Task → World → Except Failure Unit → Prop) (pool : Pool Effect Failure Task World) : Prop :=
  Inv pool.world ∧ ∀ thread ∈ pool.threads, discipline.Assures (post thread.task) thread.program pool.world

theorem Sound.moves (sound : discipline.Sound system.step Inv)
    (starts : ∀ task world, discipline.Assures (post task) (system.start task) world)
    (lasting : ∀ task outcome, discipline.Lasting (post task · outcome)) (assured : discipline.AllAssured Inv post pool)
    (step : system.Step allowed pool next) : discipline.AllAssured Inv post next := by
  obtain ⟨inv, threads⟩ := assured
  cases step with
  | start may =>
    refine ⟨inv, fun thread member => ?_⟩
    rcases List.mem_cons.mp member with rfl | old
    · exact starts _ _
    · exact threads thread old
  | @act world after left right task Answer effect next answer may performed =>
    have own := threads ⟨task, .perform effect next⟩ (by simp)
    obtain ⟨kept, moved, told⟩ := sound.keeps _ _ _ _ _ inv own.1 performed
    refine ⟨kept, fun thread member => ?_⟩
    rw [List.mem_append, List.mem_cons] at member
    rcases member with before | rfl | behind
    · exact (threads thread (by simp [before])).later (lasting _) moved
    · exact own.2 _ moved _ told
    · exact (threads thread (by simp [behind])).later (lasting _) moved
  | finish =>
    refine ⟨inv, fun thread member => threads thread ?_⟩
    rw [List.mem_append] at member ⊢
    exact member.imp_right (List.mem_cons_of_mem _)

theorem Sound.reaches (sound : discipline.Sound system.step Inv)
    (starts : ∀ task world, discipline.Assures (post task) (system.start task) world)
    (lasting : ∀ task outcome, discipline.Lasting (post task · outcome)) (assured : discipline.AllAssured Inv post pool)
    (run : system.Reaches allowed pool next) : discipline.AllAssured Inv post next := by
  induction run with
  | refl => exact assured
  | tail _ step ih => exact sound.moves starts lasting ih step

end Runs

end Discipline

end UsgRadius.Data
