import UsgRadius.Proxy.Links
import Mathlib.Data.List.Count

namespace UsgRadius.Proxy

open Data

/-! How often a request is on a connection: the frames written for it, and those
queued to be written. -/

/-- The Proxy-State a frame is correlated by. -/
def frameKey (frame : Octets) : Option ProxyStateKey :=
  (Packet.decode frame).toOption.bind lastProxyState

theorem frameKey_bytes {packet : Packet} (encodable : packet.Encodable) :
    frameKey packet.bytes = lastProxyState packet := by
  rw [frameKey, Packet.decode_eq_ok.mpr ⟨encodable, List.prefix_rfl⟩]
  rfl

namespace LinkState

variable {link next : LinkState} {key : ProxyStateKey} {frame : Octets}

def carries (key : ProxyStateKey) (frame : Octets) : Bool :=
  frameKey frame = some key

def queued (link : LinkState) (key : ProxyStateKey) : Nat :=
  link.queue.countP (carries key)

/-- The frames written for a request on one connection. -/
def copies (link : LinkState) (connection : Nat) (key : ProxyStateKey) : Nat :=
  link.written.countP fun record => record.1 = connection && carries key record.2

/-- The frames of a request that were or may yet be written on the present
connection. -/
def load (link : LinkState) (key : ProxyStateKey) : Nat :=
  if link.stage = .serving then link.copies link.connections key + link.queued key else 0

def frames (link : LinkState) : List Octets :=
  link.queue ++ link.written.map Prod.snd

/-- The queue is drained for a new connection, which is not shown yet. -/
def reconnecting (link : LinkState) : Bool :=
  match link.stage with
  | .drained | .cleared | .counted => true
  | _ => false

structure Sane (link : LinkState) : Prop where
  tagged : ∀ frame ∈ link.frames, frameKey frame ≠ none
  past : ∀ record ∈ link.written, record.1 ≤ link.connections
  fresh : link.stage = .counted → ∀ record ∈ link.written, record.1 < link.connections
  empty : link.reconnecting = true → link.queue = []

section Initial

variable (capacity : Nat)

theorem initial_sane : (initial capacity).Sane where
  tagged _ member := absurd member List.not_mem_nil
  past _ member := absurd member List.not_mem_nil
  fresh counted := by cases counted
  empty _ := rfl

end Initial

theorem Moved.frames (moved : link.Moved next) : next.frames ⊆ link.frames := by
  intro frame member
  rcases List.mem_append.mp member with waiting | written
  · cases moved with
    | wrote queue | failed queue => exact List.mem_append_left _ (queue ▸ List.mem_cons_of_mem _ waiting)
    | drained | discarded => cases waiting
    | _ => exact List.mem_append_left _ waiting
  · cases moved with
    | wrote queue =>
      rcases List.mem_cons.mp written with rfl | earlier
      · exact List.mem_append_left _ (queue ▸ List.mem_cons_self)
      · exact List.mem_append_right _ earlier
    | _ => exact List.mem_append_right _ written

theorem Moved.sane (sane : link.Sane) (moved : link.Moved next) : next.Sane := by
  have tagged : ∀ frame ∈ next.frames, frameKey frame ≠ none :=
    fun frame member => sane.tagged frame (moved.frames member)
  obtain ⟨_, past, fresh, empty⟩ := sane
  cases moved with
  | drained => exact ⟨tagged, past, nofun, fun _ => rfl⟩
  | cleared drained => exact ⟨tagged, past, nofun, fun _ => empty (by simp [reconnecting, drained])⟩
  | counted cleared =>
    refine ⟨tagged, fun record member => (past record member).trans (Nat.le_succ _), fun _ record member => ?_, ?_⟩
    · exact Nat.lt_succ_of_le (past record member)
    · exact fun _ => empty (by simp [reconnecting, cleared])
  | connected => exact ⟨tagged, past, nofun, by simp [reconnecting]⟩
  | wrote _ serving =>
    refine ⟨tagged, List.forall_mem_cons.mpr ⟨le_rfl, past⟩, ?_, by simp [reconnecting, serving]⟩
    intro counted
    rw [serving] at counted
    cases counted
  | failed | lost | reset => exact ⟨tagged, past, nofun, by simp [reconnecting]⟩
  | ignored => exact ⟨tagged, past, fresh, empty⟩
  | discarded => exact ⟨tagged, past, nofun, fun _ => rfl⟩

/-- Nothing that may be written is added, and a new connection starts with nothing. -/
structure Calms (key : ProxyStateKey) (link next : LinkState) : Prop where
  load : next.load key ≤ link.load key
  renewed : next.generation ≠ link.generation → next.load key = 0
  copies : ∀ connection, next.copies connection key ≤ max (link.copies connection key) (link.load key)

theorem Calms.of_idle (same : next.written = link.written) (idle : next.load key = 0) : Calms key link next where
  load := by rw [idle]; exact Nat.zero_le _
  renewed := fun _ => idle
  copies := fun connection => by
    rw [LinkState.copies, same]
    exact le_max_left _ _

theorem load_fresh (sane : link.Sane) (counted : link.stage = .counted) :
    ({ link with stage := .serving } : LinkState).load key = 0 := by
  have none : link.copies link.connections key = 0 := by
    rw [copies, List.countP_eq_zero]
    intro record member
    have earlier := sane.fresh counted record member
    simp [Nat.ne_of_lt earlier]
  have nothing : link.queue = [] := sane.empty (by simp [reconnecting, counted])
  simp only [load, if_true]
  show link.copies link.connections key + link.queue.countP _ = 0
  rw [none, nothing]
  rfl

theorem Moved.calms (sane : link.Sane) (moved : link.Moved next) (key : ProxyStateKey) : Calms key link next := by
  cases moved with
  | drained | cleared | counted | failed | lost | reset | discarded => exact .of_idle rfl rfl
  | connected counted => exact .of_idle rfl (load_fresh sane counted)
  | @wrote frame rest queue serving =>
    have written (connection : Nat) : LinkState.copies { link with
        queue := rest, written := (link.connections, frame) :: link.written } connection key =
        link.copies connection key + if link.connections = connection && carries key frame then 1 else 0 :=
      List.countP_cons
    have waiting : link.queued key = rest.countP (carries key) + if carries key frame then 1 else 0 := by
      rw [queued, queue, List.countP_cons]
    have before : link.load key = link.copies link.connections key + link.queued key := if_pos serving
    have same : LinkState.load { link with
        queue := rest, written := (link.connections, frame) :: link.written } key = link.load key := by
      have after : LinkState.load { link with
          queue := rest, written := (link.connections, frame) :: link.written } key =
          LinkState.copies { link with queue := rest, written := (link.connections, frame) :: link.written }
            link.connections key + rest.countP (carries key) := if_pos serving
      rw [after, before, written, waiting]
      simp only [decide_true, Bool.true_and]
      omega
    refine ⟨same.le, fun other => absurd rfl other, fun connection => ?_⟩
    rw [written, before, waiting]
    by_cases here : link.connections = connection
    · subst here
      simp only [decide_true, Bool.true_and]
      exact (by omega : _ ≤ _).trans (le_max_right _ _)
    · simp [here]
  | ignored =>
    exact ⟨le_rfl, fun other => absurd rfl other, fun connection => le_max_left _ _⟩

theorem trySend_cases (link : LinkState) (frame : Octets) :
    (link.trySend frame).2 = link ∨ (link.trySend frame).2 = { link with queue := link.queue ++ [frame] } := by
  unfold trySend
  split
  · exact .inl rfl
  · exact .inr rfl

theorem trySend_sane (sane : link.Sane) (tagged : frameKey frame ≠ none) (settled : link.reconnecting = false) :
    (link.trySend frame).2.Sane := by
  rcases trySend_cases link frame with same | queued
  · rw [same]
    exact sane
  · rw [queued]
    refine ⟨fun other member => ?_, sane.past, sane.fresh, fun other => Bool.noConfusion (settled.symm.trans other)⟩
    rw [frames, List.append_assoc] at member
    rcases List.mem_append.mp member with waiting | tail
    · exact sane.tagged other (List.mem_append_left _ waiting)
    · rcases List.mem_cons.mp tail with rfl | written
      · exact tagged
      · exact sane.tagged other (List.mem_append_right _ written)

theorem trySend_generation : (link.trySend frame).2.generation = link.generation := by
  rcases trySend_cases link frame with same | queued
  · rw [same]
  · rw [queued]
    rfl

theorem trySend_copies (connection : Nat) :
    (link.trySend frame).2.copies connection key = link.copies connection key := by
  rcases trySend_cases link frame with same | queued
  · rw [same]
  · rw [queued]
    rfl

theorem trySend_load : (link.trySend frame).2.load key ≤ link.load key + if carries key frame then 1 else 0 := by
  rcases trySend_cases link frame with same | queued
  · rw [same]
    exact Nat.le_add_right _ _
  · rw [queued]
    by_cases serving : link.stage = .serving
    · have before : link.load key = link.copies link.connections key + link.queued key := if_pos serving
      have after : LinkState.load { link with queue := link.queue ++ [frame] } key =
          link.copies link.connections key + (link.queue ++ [frame]).countP (carries key) := if_pos serving
      rw [before, after, List.countP_append, List.countP_singleton, LinkState.queued]
      omega
    · rw [show LinkState.load { link with queue := link.queue ++ [frame] } key = 0 from if_neg serving]
      exact Nat.zero_le _

theorem trySend_load_other (other : frameKey frame ≠ some key) : (link.trySend frame).2.load key ≤ link.load key := by
  have unaffected := @trySend_load link key frame
  rwa [carries, if_neg (by simpa using other), Nat.add_zero] at unaffected

end LinkState

end UsgRadius.Proxy
