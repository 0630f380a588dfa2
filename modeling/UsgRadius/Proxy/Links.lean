import UsgRadius.Proxy.Tasks
import Mathlib.Logic.Function.Basic

namespace UsgRadius.Proxy

open Data

/-! The RadSec links: what a link handle does, and the link task that connects,
serves the connection and reconnects while the proxy's tasks run. -/

/-- Where the loop of `Link::run` stands. -/
inductive LinkStage where
  /-- Connecting or backing off. -/
  | waiting
  /-- Connected, and what was queued is discarded. -/
  | drained
  /-- Pending resets are discarded as well. -/
  | cleared
  /-- `connections` is incremented, `connected` not yet set. -/
  | counted
  | serving
  /-- `connected` is unset, what is queued not yet discarded. -/
  | closing
deriving DecidableEq

structure LinkState where
  stage : LinkStage
  /-- How many connections were established; the `AtomicU64` is this modulo 2^64. -/
  connections : Nat
  queue : List Octets
  capacity : Nat
  /-- The pending reset: the channel for them holds one. -/
  reset : Option UInt64
  /-- The frames written so far, each with the connection it went out on. -/
  written : List (Nat × Octets)
  /-- The connections closed on a reset so far. -/
  resets : List UInt64
deriving DecidableEq

inductive LinkMove where
  | drainOutbound
  | drainResets
  | count
  | connect
  | write
  /-- A frame is taken from the queue and writing it fails. -/
  | failWrite
  /-- The connection ends: closed by the peer, an I/O error or a malformed packet. -/
  | lose
  | takeReset
  | discard
deriving DecidableEq

namespace LinkState

/-- A link as it is spawned. -/
def initial (capacity : Nat) : LinkState where
  stage := .waiting
  connections := 0
  queue := []
  capacity := capacity
  reset := none
  written := []
  resets := []

def generation (link : LinkState) : UInt64 :=
  UInt64.ofNat link.connections

/-- What `is_connected()` and `connections()` show. -/
def view (link : LinkState) : LinkView where
  connected := link.stage = .serving
  connections := link.generation

/-- What `try_send` does to the queue of the link. -/
def trySend (link : LinkState) (frame : Octets) : Option LinkSendError × LinkState :=
  if link.capacity ≤ link.queue.length then
    (some .busy, link)
  else
    (none, { link with queue := link.queue ++ [frame] })

/-- `RadsecLinkHandle::send`, when nothing comes between its two parts. -/
def send (link : LinkState) (frame : Octets) : Option LinkSendError × LinkState :=
  if link.stage ≠ .serving then (some .down, link) else link.trySend frame

/-- `RadsecLinkHandle::reset`. -/
def requestReset (link : LinkState) (generation : UInt64) : LinkState :=
  if link.stage ≠ .serving ∨ generation ≠ link.generation then
    link
  else
    match link.reset with
    | none => { link with reset := some generation }
    | some _ => link

/-- One step of `Link::run`, if it can be taken. -/
def move (link : LinkState) : LinkMove → Option LinkState
  | .drainOutbound =>
    if link.stage = .waiting then some { link with stage := .drained, queue := [] } else none
  | .drainResets =>
    if link.stage = .drained then some { link with stage := .cleared, reset := none } else none
  | .count =>
    if link.stage = .cleared then some { link with stage := .counted, connections := link.connections + 1 } else none
  | .connect =>
    if link.stage = .counted then some { link with stage := .serving } else none
  | .write =>
    match link.queue with
    | [] => none
    | frame :: rest =>
      if link.stage = .serving then
        some { link with queue := rest, written := (link.connections, frame) :: link.written }
      else
        none
  | .failWrite =>
    match link.queue with
    | [] => none
    | _ :: rest => if link.stage = .serving then some { link with stage := .closing, queue := rest } else none
  | .lose =>
    if link.stage = .serving then some { link with stage := .closing } else none
  | .takeReset =>
    match link.reset with
    | none => none
    | some generation =>
      if link.stage = .serving then
        if generation = link.generation then
          some { link with stage := .closing, reset := none, resets := generation :: link.resets }
        else
          some { link with reset := none }
      else
        none
  | .discard =>
    if link.stage = .closing then some { link with stage := .waiting, queue := [] } else none

inductive Moved (link : LinkState) : LinkState → Prop
  | drained (waiting : link.stage = .waiting) : Moved link { link with stage := .drained, queue := [] }
  | cleared (drained : link.stage = .drained) : Moved link { link with stage := .cleared, reset := none }
  | counted (cleared : link.stage = .cleared) :
      Moved link { link with stage := .counted, connections := link.connections + 1 }
  | connected (counted : link.stage = .counted) : Moved link { link with stage := .serving }
  | wrote {frame : Octets} {rest : List Octets} (queue : link.queue = frame :: rest) (serving : link.stage = .serving) :
      Moved link { link with queue := rest, written := (link.connections, frame) :: link.written }
  | failed {frame : Octets} {rest : List Octets} (queue : link.queue = frame :: rest)
      (serving : link.stage = .serving) : Moved link { link with stage := .closing, queue := rest }
  | lost (serving : link.stage = .serving) : Moved link { link with stage := .closing }
  | reset (pending : link.reset = some link.generation) (serving : link.stage = .serving) :
      Moved link { link with stage := .closing, reset := none, resets := link.generation :: link.resets }
  | ignored (serving : link.stage = .serving) : Moved link { link with reset := none }
  | discarded (closing : link.stage = .closing) : Moved link { link with stage := .waiting, queue := [] }

theorem moved {link next : LinkState} {step : LinkMove} (taken : link.move step = some next) : Moved link next := by
  cases step with
  | write =>
    simp only [move] at taken
    split at taken
    next => cases taken
    next queue =>
      obtain ⟨serving, ⟨⟩⟩ := Option.ite_none_right_eq_some.mp taken
      exact .wrote queue serving
  | failWrite =>
    simp only [move] at taken
    split at taken
    next => cases taken
    next queue =>
      obtain ⟨serving, ⟨⟩⟩ := Option.ite_none_right_eq_some.mp taken
      exact .failed queue serving
  | takeReset =>
    simp only [move] at taken
    split at taken
    next => cases taken
    next pending =>
      obtain ⟨serving, chosen⟩ := Option.ite_none_right_eq_some.mp taken
      split at chosen
      next same =>
        cases chosen
        subst same
        exact .reset pending serving
      next =>
        cases chosen
        exact .ignored serving
  | drainOutbound =>
    obtain ⟨waiting, ⟨⟩⟩ := Option.ite_none_right_eq_some.mp taken
    exact .drained waiting
  | drainResets =>
    obtain ⟨drained, ⟨⟩⟩ := Option.ite_none_right_eq_some.mp taken
    exact .cleared drained
  | count =>
    obtain ⟨cleared, ⟨⟩⟩ := Option.ite_none_right_eq_some.mp taken
    exact .counted cleared
  | connect =>
    obtain ⟨counted, ⟨⟩⟩ := Option.ite_none_right_eq_some.mp taken
    exact .connected counted
  | lose =>
    obtain ⟨serving, ⟨⟩⟩ := Option.ite_none_right_eq_some.mp taken
    exact .lost serving
  | discard =>
    obtain ⟨closing, ⟨⟩⟩ := Option.ite_none_right_eq_some.mp taken
    exact .discarded closing

end LinkState

/-- The proxy's state and its links. -/
structure LinkedWorld where
  base : World
  /-- The link attached to a home server, by its `Arc`. -/
  links : Nat → Option LinkState
  /-- The entry last stored under a key, also when it has been taken out since. -/
  latest : ProxyStateKey → Option ProxyCacheEntry
  /-- The keys that a scan of the retry manager has listed so far. -/
  timedOut : List ProxyStateKey

namespace LinkedWorld

variable {world after : LinkedWorld} {entry : ProxyCacheEntry}

/-- A new cache, and a link for each `Arc` that is given a queue capacity. -/
def initial (maxEntries : UInt64) (capacity : Nat → Option Nat) : LinkedWorld where
  base := .initial maxEntries
  links arc := (capacity arc).map LinkState.initial
  latest _ := none
  timedOut := []

def setLink (world : LinkedWorld) (arc : Nat) (link : LinkState) : LinkedWorld :=
  { world with links := Function.update world.links arc (some link) }

/-- `ProxyCache::insert`. -/
def insert (world : LinkedWorld) (entry : ProxyCacheEntry) : Except ProxyError Unit × LinkedWorld :=
  match world.base.insert entry with
  | (.error reason, base) => (.error reason, { world with base })
  | (.ok (), base) =>
    (.ok (), { world with base, latest := Function.update world.latest entry.proxyState (some entry) })

theorem insert_error {reason : ProxyError} (refused : (.error reason, after) = world.insert entry) : after = world := by
  simp only [insert] at refused
  split at refused
  · rename_i outcome
    cases refused
    rw [(World.insert_error outcome.symm).2]
  · cases refused

theorem insert_ok (stored : (.ok (), after) = world.insert entry) :
    after = { world with
      base := { world.base with cache := world.base.cache.insert entry.proxyState entry }
      latest := Function.update world.latest entry.proxyState (some entry) } := by
  simp only [insert] at stored
  split at stored
  · cases stored
  · rename_i outcome
    cases stored
    rw [(World.insert_ok outcome.symm).2]

end LinkedWorld

def LinkStep (before after : LinkedWorld) : Prop :=
  ∃ arc link move next, before.links arc = some link ∧ link.move move = some next ∧ after = before.setLink arc next

/-- What an operation does when the links answer as they stand. -/
def LinkPerforms : Program.Semantics Effect LinkedWorld
  | _, .link server, world, answer, after => answer = (world.links server.arc).map LinkState.view ∧ after = world
  | _, .linkConnected server, world, answer, after =>
    answer = (world.links server.arc).any (·.view.connected) ∧ after = world
  | _, .linkSend server bytes, world, answer, after =>
    match world.links server.arc with
    | none => after = world
    | some link => answer = (link.trySend bytes).1 ∧ after = world.setLink server.arc (link.trySend bytes).2
  | _, .linkReset server generation, world, _, after =>
    match world.links server.arc with
    | none => after = world
    | some link => after = world.setLink server.arc (link.requestReset generation)
  | _, .cacheInsert entry, world, answer, after => (answer, after) = world.insert entry
  | _, .cacheTimedOut timeout, world, entries, after =>
    Performs True _ (.cacheTimedOut timeout) world.base entries world.base ∧
      after = { world with timedOut := entries.map ProxyCacheEntry.proxyState ++ world.timedOut }
  | Answer, effect, world, answer, after =>
    ∃ base, Performs True Answer effect world.base answer base ∧ after = { world with base }

/-- After each operation the links take any number of steps. -/
def LinksRun : Program.Semantics Effect LinkedWorld :=
  fun Answer effect world answer after =>
    ∃ middle, LinkPerforms Answer effect world answer middle ∧ Relation.ReflTransGen LinkStep middle after

variable {after world : LinkedWorld}

theorem linkSteps_base {before : LinkedWorld} (moved : Relation.ReflTransGen LinkStep before after) :
    after.base = before.base := by
  induction moved with
  | refl => rfl
  | tail _ step ih =>
    obtain ⟨_, _, _, _, _, _, rfl⟩ := step
    exact ih

variable {Answer : Type} {effect : Effect Answer} {answer : Answer}

theorem linkPerforms_performs (performed : LinkPerforms Answer effect world answer after) :
    Performs True Answer effect world.base answer after.base := by
  cases effect with
  | link server | linkConnected server =>
    obtain ⟨_, rfl⟩ := performed
    rfl
  | linkSend server bytes =>
    simp only [LinkPerforms] at performed
    split at performed
    · rw [performed]
      rfl
    · rw [performed.2]
      rfl
  | linkReset server generation =>
    simp only [LinkPerforms] at performed
    split at performed
    · rw [performed]
      rfl
    · rw [performed]
      rfl
  | cacheInsert entry =>
    simp only [LinkPerforms, LinkedWorld.insert] at performed
    split at performed
    · rename_i stored
      cases performed
      exact stored.symm
    · rename_i stored
      cases performed
      exact stored.symm
  | cacheTimedOut timeout =>
    obtain ⟨listed, rfl⟩ := performed
    exact listed
  | _ =>
    obtain ⟨base, done, rfl⟩ := performed
    exact done

theorem linksRun_performs (performed : LinksRun Answer effect world answer after) :
    Performs True Answer effect world.base answer after.base := by
  obtain ⟨middle, done, moved⟩ := performed
  rw [linkSteps_base moved]
  exact linkPerforms_performs done

def performLinked (around : Surroundings) : (Answer : Type) → Effect Answer → LinkedWorld → Answer × LinkedWorld
  | _, .link server, world => ((world.links server.arc).map LinkState.view, world)
  | _, .linkConnected server, world => ((world.links server.arc).any (·.view.connected), world)
  | _, .linkSend server bytes, world =>
    match world.links server.arc with
    | none => (around.linkSends, world)
    | some link => ((link.trySend bytes).1, world.setLink server.arc (link.trySend bytes).2)
  | _, .linkReset server generation, world =>
    match world.links server.arc with
    | none => ((), world)
    | some link => ((), world.setLink server.arc (link.requestReset generation))
  | _, .cacheInsert entry, world => world.insert entry
  | _, .cacheTimedOut timeout, world =>
    let entries := (world.base.olderThan around.time timeout).map Sigma.snd
    (entries, { world with timedOut := entries.map ProxyCacheEntry.proxyState ++ world.timedOut })
  | Answer, effect, world =>
    let outcome := perform around Answer effect world.base
    (outcome.1, { world with base := outcome.2 })

theorem performLinked_performs (around : Surroundings) (Answer : Type) (effect : Effect Answer) (world : LinkedWorld) :
    LinkPerforms Answer effect world (performLinked around Answer effect world).1
      (performLinked around Answer effect world).2 := by
  have base := perform_performs around (fun _ => trivial) Answer effect world.base
  cases effect with
  | link server | linkConnected server => exact ⟨rfl, rfl⟩
  | linkSend server bytes =>
    simp only [LinkPerforms, performLinked]
    split
    · rfl
    · exact ⟨rfl, rfl⟩
  | linkReset server generation =>
    simp only [LinkPerforms, performLinked]
    split
    · rfl
    · rfl
  | cacheInsert entry => rfl
  | cacheTimedOut timeout => exact ⟨base, rfl⟩
  | _ => exact ⟨_, base, rfl⟩

theorem performLinked_runs (around : Surroundings) (Answer : Type) (effect : Effect Answer) (world : LinkedWorld) :
    LinksRun Answer effect world (performLinked around Answer effect world).1
      (performLinked around Answer effect world).2 :=
  ⟨_, performLinked_performs around Answer effect world, .refl⟩

def LinkedWorld.moveLink (arc : Nat) : List LinkMove → LinkedWorld → LinkedWorld
  | [], world => world
  | move :: rest, world =>
    match (world.links arc).bind (·.move move) with
    | none => world
    | some next => moveLink arc rest (world.setLink arc next)

theorem moveLink_steps (arc : Nat) (moves : List LinkMove) (world : LinkedWorld) :
    Relation.ReflTransGen LinkStep world (world.moveLink arc moves) := by
  induction moves generalizing world with
  | nil => exact .refl
  | cons move rest ih =>
    rw [LinkedWorld.moveLink]
    split
    · exact .refl
    · rename_i next taken
      obtain ⟨link, present, moved⟩ := Option.bind_eq_some_iff.mp taken
      exact .head ⟨arc, link, move, next, present, moved, rfl⟩ (ih _)

def performMoving (around : Surroundings × Nat × List LinkMove) (Answer : Type) (effect : Effect Answer)
    (world : LinkedWorld) : Answer × LinkedWorld :=
  let outcome := performLinked around.1 Answer effect world
  (outcome.1, outcome.2.moveLink around.2.1 around.2.2)

theorem performMoving_runs (around : Surroundings × Nat × List LinkMove) (Answer : Type) (effect : Effect Answer)
    (world : LinkedWorld) :
    LinksRun Answer effect world (performMoving around Answer effect world).1
      (performMoving around Answer effect world).2 :=
  ⟨_, performLinked_performs around.1 Answer effect world, moveLink_steps _ _ _⟩

end UsgRadius.Proxy
