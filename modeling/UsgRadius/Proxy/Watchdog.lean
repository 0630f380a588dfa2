import UsgRadius.Proxy.Identifiers

namespace UsgRadius.Proxy

open Data Program Auth

/-! The watchdog of a RadSec link: Status-Server probes, and the resets of
connections that do not answer them. -/

inductive ProbeReject where
  | identifier
  | code
  | responseAuthenticator
  | messageAuthenticator
  | encode
deriving DecidableEq

def ProbeReject.closesConnection : ProbeReject → Bool
  | .responseAuthenticator => true
  | .messageAuthenticator => true
  | _ => false

section Packets

variable (digests : Digests) (secret : Octets) (identifier : UInt8) (requestAuth : Block 16)

/-- How the wait for a reply ends, if no reply ends it. -/
inductive Silence where
  | linkLost
  | timedOut
deriving DecidableEq

end Packets

structure HealthCheckStats where
  totalChecks : Nat
  totalSuccesses : Nat
  totalFailures : Nat
  consecutiveFailures : Nat
  consecutiveSuccesses : Nat
  /-- The connection of the last miss, and the misses in a row on it. -/
  watchdogMisses : UInt64 × Nat
deriving DecidableEq

namespace HealthCheckStats

def new : HealthCheckStats := ⟨0, 0, 0, 0, 0, (0, 0)⟩

def recordSuccess (stats : HealthCheckStats) : HealthCheckStats :=
  { stats with
    totalChecks := stats.totalChecks + 1
    totalSuccesses := stats.totalSuccesses + 1
    consecutiveSuccesses := stats.consecutiveSuccesses + 1
    consecutiveFailures := 0
    watchdogMisses := (stats.watchdogMisses.1, 0) }

def recordWatchdogMiss (stats : HealthCheckStats) (generation : UInt64) : Nat × HealthCheckStats :=
  let misses := if stats.watchdogMisses.1 ≠ generation then (generation, 0) else stats.watchdogMisses
  (misses.2 + 1, { stats with watchdogMisses := (misses.1, misses.2 + 1) })

def recordFailure (stats : HealthCheckStats) : HealthCheckStats :=
  { stats with
    totalChecks := stats.totalChecks + 1
    totalFailures := stats.totalFailures + 1
    consecutiveFailures := stats.consecutiveFailures + 1
    consecutiveSuccesses := 0 }

end HealthCheckStats

inductive ResetReason where
  | watchdog
  | probeReply (check : ProbeReject)
  | response
deriving DecidableEq

inductive ProbeStep : Type → Type
  | freeIdentifier : ProbeStep (Option UInt8)
  | generateRequestAuthenticator : ProbeStep (Block 16)
  /-- The token of the registration. -/
  | registerProbe (identifier : UInt8) : ProbeStep (Except ProbeRegistrationError UInt64)
  | connections : ProbeStep UInt64
  | send (frame : Octets) : ProbeStep (Option LinkSendError)
  /-- The replies that come in for the probe, up to its deadline or the end of the connection. -/
  | listen (identifier : UInt8) (token : UInt64) : ProbeStep (List Packet × Silence)
  | recordSuccess : ProbeStep Unit
  | recordFailure : ProbeStep Unit
  | recordWatchdogMiss (generation : UInt64) : ProbeStep Nat
  /-- The first thing that a call of `reset` reads. -/
  | readConnected (generation : UInt64) (reason : ResetReason) : ProbeStep Bool
  /-- `self.reset.try_send(..)`. -/
  | queueReset (generation : UInt64) : ProbeStep Unit
  | dropProbe (identifier : UInt8) (token : UInt64) : ProbeStep Unit

abbrev ProbeAction := Program ProbeStep Panic

/-- `RadsecLinkHandle::reset`, one access at a time. -/
def reset (generation : UInt64) (reason : ResetReason) : ProbeAction Unit := do
  if !(← ask (.readConnected generation reason)) then
    return ()
  else if generation ≠ (← ask .connections) then
    return ()
  else
    ask (.queueReset generation)

/-- `try_send` on the channel for resets, which holds one. -/
def LinkState.queueReset (link : LinkState) (generation : UInt64) : LinkState :=
  match link.reset with
  | none => { link with reset := some generation }
  | some _ => link

inductive WatchdogEvent where
  /-- A verified reply to a probe is recorded. -/
  | verified
  /-- A probe recorded on a connection timed out. -/
  | missed (generation : UInt64)
  /-- A reset is issued. -/
  | issued (generation : UInt64) (reason : ResetReason)
deriving DecidableEq

structure WatchdogWorld where
  history : LinkHistory
  stats : HealthCheckStats
  /-- What happened, the latest first. -/
  log : List WatchdogEvent
  /-- The connections closed on a reset, each with the generation the reset was issued for. -/
  closed : List (UInt64 × Nat)

namespace WatchdogWorld

def spawn (capacity identifierTtl : Nat) : WatchdogWorld := ⟨.spawn capacity identifierTtl, .new, [], []⟩

def link (world : WatchdogWorld) : LinkState := world.history.tables.link

def happens (world : WatchdogWorld) (event : LinkEvent) : WatchdogWorld :=
  { world with history := world.history.happens event }

def queueReset (world : WatchdogWorld) (generation : UInt64) : WatchdogWorld :=
  { world with history.tables.link := world.link.queueReset generation }

def closedBy (link : LinkState) : LinkEvent → List (UInt64 × Nat)
  | .move .takeReset =>
    match link.reset, link.move .takeReset with
    | some generation, some next => if next.stage = .closing then [(generation, link.connections)] else []
    | _, _ => []
  | _ => []

def drift (world : WatchdogWorld) (elapsed : Nat) (event : LinkEvent) : WatchdogWorld :=
  { world with history := world.history.step elapsed event, closed := closedBy world.link event ++ world.closed }

def Acts : Semantics ProbeStep WatchdogWorld
  | _, .freeIdentifier, world, answer, after =>
    (∃ pick, answer = world.history.tables.freeIdentifier world.history.clock pick) ∧ after = world
  | _, .generateRequestAuthenticator, world, _, after => after = world
  | _, .registerProbe identifier, world, answer, after =>
    ∃ token, answer = (world.history.tables.registerProbe identifier token).map (fun _ => token) ∧
      after = world.happens (.registerProbe identifier token)
  | _, .connections, world, answer, after => answer = world.link.generation ∧ after = world
  | _, .send frame, world, answer, after =>
    answer = (world.history.tables.send world.history.clock frame).1 ∧ after = world.happens (.send frame)
  | _, .listen _ _, world, _, after => after = world
  | _, .recordSuccess, world, _, after =>
    after = { world with stats := world.stats.recordSuccess, log := .verified :: world.log }
  | _, .recordFailure, world, _, after => after = { world with stats := world.stats.recordFailure }
  | _, .recordWatchdogMiss generation, world, answer, after =>
    answer = (world.stats.recordWatchdogMiss generation).1 ∧
      after = { world with
        stats := (world.stats.recordWatchdogMiss generation).2, log := .missed generation :: world.log }
  | _, .readConnected generation reason, world, answer, after =>
    answer = decide (world.link.stage = .serving) ∧ after = { world with log := .issued generation reason :: world.log }
  | _, .queueReset generation, world, _, after => after = world.queueReset generation
  | _, .dropProbe identifier token, world, _, after => after = world.happens (.dropProbe identifier token)

/-- With nothing in between, a call of `reset` does to the link what `requestReset`
does. -/
theorem reset_runs {generation : UInt64} {reason : ResetReason} {world after : WatchdogWorld}
    {outcome : Except Panic Unit} (run : Runs Acts (reset generation reason) world outcome after) :
    outcome = .ok () ∧ after.link = world.link.requestReset generation := by
  simp only [reset, ask_bind, runs_perform, Acts] at run
  obtain ⟨connected, _, ⟨rfl, rfl⟩, run⟩ := run
  unfold LinkState.requestReset
  by_cases serving : world.link.stage = .serving
  · simp only [serving, decide_true, Bool.not_true, Bool.false_eq_true, if_false, runs_perform, Acts] at run
    obtain ⟨current, _, ⟨rfl, rfl⟩, run⟩ := run
    by_cases same : generation = world.link.generation
    · rw [if_neg (by simpa [link] using same), runs_ask] at run
      obtain ⟨_, ended, rfl⟩ := run
      rw [if_neg (by simp [serving, same])]
      exact ⟨ended, rfl⟩
    · rw [if_pos (by simpa [link] using same), pure_eq, runs_done] at run
      rw [if_pos (.inr same), run.2]
      exact ⟨run.1, rfl⟩
  · simp only [serving, decide_false, Bool.not_false, if_true, pure_eq, runs_done] at run
    rw [if_pos (.inl serving), run.2]
    exact ⟨run.1, rfl⟩

def Drifts (before after : WatchdogWorld) : Prop :=
  ∃ elapsed event, after = before.drift elapsed event

/-- After every step of a task, anything may go on at the link. -/
def Performs : Semantics ProbeStep WatchdogWorld := fun Answer effect before answer after =>
  ∃ between, Acts Answer effect before answer between ∧ Relation.ReflTransGen Drifts between after

end WatchdogWorld

/-- Two probes on a connection timed out with no verified reply in between. -/
def TwoMisses (generation : UInt64) (log : List WatchdogEvent) : Prop :=
  ∃ newer between older, log = newer ++ .missed generation :: (between ++ .missed generation :: older) ∧
    .verified ∉ between

/-- What is behind a reset: two misses on that connection, or a reply that failed
the Response Authenticator or Message-Authenticator check. -/
def Warrant (log : List WatchdogEvent) (generation : UInt64) : ResetReason → Prop
  | .watchdog => TwoMisses generation log
  | .probeReply check => check.closesConnection = true
  | .response => True

/-- Every reset had its reason when it was issued. -/
def Warranted (log : List WatchdogEvent) : Prop :=
  ∀ newer generation reason older, log = newer ++ .issued generation reason :: older → Warrant older generation reason

structure Counts (misses : UInt64 × Nat) (log : List WatchdogEvent) : Prop where
  one : 1 ≤ misses.2 → ∃ newer older, log = newer ++ .missed misses.1 :: older ∧ .verified ∉ newer
  two : 2 ≤ misses.2 → TwoMisses misses.1 log

section Log

variable {log : List WatchdogEvent} {event : WatchdogEvent} {generation : UInt64} {misses : UInt64 × Nat}

theorem TwoMisses.later {later : List WatchdogEvent} (missed : TwoMisses generation log) (suffix : log <:+ later) :
    TwoMisses generation later := by
  obtain ⟨newer, between, older, split, unanswered⟩ := missed
  obtain ⟨latest, rfl⟩ := suffix
  exact ⟨latest ++ newer, between, older, by rw [split, List.append_assoc], unanswered⟩

theorem Warranted.cons (warranted : Warranted log)
    (reasoned : ∀ generation reason, event = .issued generation reason → Warrant log generation reason) :
    Warranted (event :: log) := by
  intro newer generation reason older split
  cases newer with
  | nil =>
    grind
  | cons first newer => exact warranted newer generation reason older (List.cons.inj split).2

theorem Counts.cons (counts : Counts misses log) (silent : event ≠ .verified) : Counts misses (event :: log) := by
  refine ⟨fun some => ?_, fun many => (counts.two many).later (List.suffix_cons _ _)⟩
  obtain ⟨newer, older, split, unanswered⟩ := counts.one some
  refine ⟨event :: newer, older, by rw [split]; rfl, fun answered => ?_⟩
  rcases List.mem_cons.mp answered with same | old
  · exact silent same.symm
  · exact unanswered old

theorem Counts.success (misses : UInt64) (log : List WatchdogEvent) : Counts (misses, 0) log :=
  ⟨fun none => absurd none (Nat.not_succ_le_zero 0), fun none => absurd none (Nat.not_succ_le_zero 1)⟩

theorem Counts.first (generation : UInt64) (log : List WatchdogEvent) : Counts (generation, 1) (.missed generation :: log) :=
  ⟨fun _ => ⟨[], log, rfl, List.not_mem_nil⟩, fun few => absurd few (Nat.not_succ_le_self 1)⟩

theorem Counts.further {count : Nat} (counts : Counts (generation, count) log) :
    Counts (generation, count + 1) (.missed generation :: log) := by
  refine ⟨fun _ => ⟨[], log, rfl, List.not_mem_nil⟩, fun many => ?_⟩
  obtain ⟨newer, older, split, unanswered⟩ := counts.one (Nat.le_of_succ_le_succ many)
  exact ⟨[], newer, older, by rw [split]; rfl, unanswered⟩

theorem Counts.miss {stats : HealthCheckStats} (counts : Counts stats.watchdogMisses log) (generation : UInt64) :
    Counts (stats.recordWatchdogMiss generation).2.watchdogMisses (.missed generation :: log) ∧
      (stats.recordWatchdogMiss generation).2.watchdogMisses =
        (generation, (stats.recordWatchdogMiss generation).1) := by
  unfold HealthCheckStats.recordWatchdogMiss
  by_cases same : stats.watchdogMisses.1 = generation
  · simp only [same, ne_eq, not_true, if_false]
    refine ⟨Counts.further ?_, trivial⟩
    rw [← same]
    exact counts
  · simp only [ne_eq, same, not_false_iff, if_true]
    exact ⟨Counts.first generation log, trivial⟩

end Log

/-- A probe that may issue a reset for two misses, or a task that may not. -/
inductive Verdict where
  | undecided
  | condemned (generation : UInt64)

namespace Verdict

def permits : Verdict → (Answer : Type) → ProbeStep Answer → Prop
  | .undecided, _, .readConnected _ .watchdog => False
  | .condemned generation, _, .readConnected other .watchdog => other = generation
  | _, _, .readConnected _ (.probeReply check) => check.closesConnection = true
  | _, _, _ => True

def advance : Verdict → (Answer : Type) → ProbeStep Answer → Answer → Verdict
  | _, _, .recordWatchdogMiss generation, misses => if 2 ≤ misses then .condemned generation else .undecided
  | verdict, _, _, _ => verdict

def Knows (log : List WatchdogEvent) : Verdict → Prop
  | .undecided => True
  | .condemned generation => TwoMisses generation log

end Verdict

variable {verdict : Verdict}

/-- The invariant: the resets hit their own connections, those of the watchdog had
their reasons, and what the counter says is in the log. -/
structure Guarded (world : WatchdogWorld) : Prop where
  closed : ∀ record ∈ world.closed, record.1 = UInt64.ofNat record.2
  warranted : Warranted world.log
  counted : Counts world.stats.watchdogMisses world.log

section Invariant

variable {world after : WatchdogWorld}

theorem Verdict.Knows.later {log later : List WatchdogEvent} (knows : verdict.Knows log) (suffix : log <:+ later) :
    verdict.Knows later := by
  cases verdict with
  | undecided => exact trivial
  | condemned generation => exact TwoMisses.later knows suffix

theorem Guarded.silent (guarded : Guarded world) (closed : after.closed = world.closed) (log : after.log = world.log)
    (misses : after.stats.watchdogMisses = world.stats.watchdogMisses) (knows : verdict.Knows world.log) :
    (Guarded after ∧ world.log <:+ after.log) ∧ verdict.Knows after.log := by
  obtain ⟨own, warranted, counted⟩ := guarded
  rw [← log] at warranted counted knows
  exact ⟨⟨⟨closed ▸ own, warranted, misses ▸ counted⟩, log ▸ List.suffix_refl _⟩, knows⟩

end Invariant

section Sample

structure ProbeSurroundings where
  pick : Nat
  token : UInt64
  requestAuth : Block 16
  heard : List Packet × Silence
  events : List LinkEvent

def WatchdogWorld.driftAll (world : WatchdogWorld) : List LinkEvent → WatchdogWorld
  | [] => world
  | event :: rest => (world.drift 0 event).driftAll rest

def WatchdogWorld.act (around : ProbeSurroundings) :
    (Answer : Type) → ProbeStep Answer → WatchdogWorld → Answer × WatchdogWorld
  | _, .freeIdentifier, world => (world.history.tables.freeIdentifier world.history.clock around.pick, world)
  | _, .generateRequestAuthenticator, world => (around.requestAuth, world)
  | _, .registerProbe identifier, world =>
    ((world.history.tables.registerProbe identifier around.token).map (fun _ => around.token),
      world.happens (.registerProbe identifier around.token))
  | _, .connections, world => (world.link.generation, world)
  | _, .send frame, world =>
    ((world.history.tables.send world.history.clock frame).1, world.happens (.send frame))
  | _, .listen _ _, world => (around.heard, world)
  | _, .recordSuccess, world =>
    ((), { world with stats := world.stats.recordSuccess, log := .verified :: world.log })
  | _, .recordFailure, world => ((), { world with stats := world.stats.recordFailure })
  | _, .recordWatchdogMiss generation, world =>
    ((world.stats.recordWatchdogMiss generation).1, { world with
      stats := (world.stats.recordWatchdogMiss generation).2, log := .missed generation :: world.log })
  | _, .readConnected generation reason, world =>
    (decide (world.link.stage = .serving), { world with log := .issued generation reason :: world.log })
  | _, .queueReset generation, world => ((), world.queueReset generation)
  | _, .dropProbe identifier token, world => ((), world.happens (.dropProbe identifier token))

def WatchdogWorld.perform (around : ProbeSurroundings) (Answer : Type) (effect : ProbeStep Answer)
    (world : WatchdogWorld) : Answer × WatchdogWorld :=
  let outcome := world.act around Answer effect
  (outcome.1, outcome.2.driftAll around.events)

end Sample

end UsgRadius.Proxy
