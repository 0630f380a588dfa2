import UsgRadius.Server.Accounting

namespace UsgRadius.Server

open Data

@[grind] def AccountingCall.nasIp : AccountingCall → IpAddr
  | .handleStart _ _ nasIp _ => nasIp
  | .handleStop _ _ nasIp _ => nasIp
  | .handleInterimUpdate _ _ nasIp _ => nasIp
  | .handleAccountingOn nasIp _ => nasIp
  | .handleAccountingOff nasIp _ => nasIp

@[grind] def AccountingCall.isStart : AccountingCall → Bool
  | .handleStart _ _ _ _ => true
  | _ => false

namespace SimpleAccountingHandler

/-! Whose sessions a call touches. The sessions of all NASes are in one map, by an
Acct-Session-Id that is unique only for one NAS. -/

section Ownership

variable (handler : SimpleAccountingHandler)

def Expires (now : Nat) (session : Session) : Prop :=
  handler.sessionTimeout ≠ 0 ∧ handler.isStale now session = true

/-- A call leaves the sessions of other NASes as they are, the cleanup of a Start
apart, and is not refused because of one of them. -/
structure Respects (now : Nat) (call : AccountingCall) (sessions : Sessions) : Prop where
  kept : ∀ sessionId session, sessions.lookup sessionId = some session → session.nasIp ≠ call.nasIp →
    (handler.record now call sessions).2.lookup sessionId = some session ∨
      call.isStart = true ∧ handler.Expires now session
  unblocked : ∀ sessionId, (handler.record now call sessions).1 = .error (.duplicateSession sessionId) →
    ∃ session, sessions.lookup sessionId = some session ∧ session.nasIp = call.nasIp

/-- The session that a call names, if there is one, is of the calling NAS. A Start
may also find one that it cleans up, and an update one that is as it says already. -/
@[grind] def Apart (now : Nat) (sessions : Sessions) : AccountingCall → Prop
  | .handleStart sessionId _ nasIp _ =>
    ∀ session, sessions.lookup sessionId = some session → session.nasIp = nasIp ∨ handler.Expires now session
  | .handleStop sessionId _ nasIp _ =>
    ∀ session, sessions.lookup sessionId = some session → session.nasIp = nasIp
  | .handleInterimUpdate sessionId _ nasIp packet =>
    ∀ session, sessions.lookup sessionId = some session →
      session.nasIp = nasIp ∨ session.updated now packet = session
  | .handleAccountingOn _ _ => True
  | .handleAccountingOff _ _ => True

end Ownership

variable {handler : SimpleAccountingHandler} {now : Nat} {sessions : Sessions} {sessionId username : String}
  {nasIp : IpAddr} {packet : Packet} {session : Session}

theorem lookup_cleaned :
    (handler.cleaned now sessions).lookup sessionId = some session ↔
      sessions.lookup sessionId = some session ∧ ¬ handler.Expires now session := by
  unfold cleaned Expires
  split
  · rename_i lasting
    simp [lasting]
  · rename_i limited
    simp [Maps.lookup_retain, Option.filter_eq_some_iff, limited]

theorem start_duplicate {blocked : String} :
    (handler.record now (.handleStart sessionId username nasIp packet) sessions).1 = .error (.duplicateSession blocked) ↔
      blocked = sessionId ∧ ∃ session, sessions.lookup sessionId = some session ∧ ¬ handler.Expires now session := by
  have held : sessionId ∈ handler.cleaned now sessions ↔
      ∃ session, sessions.lookup sessionId = some session ∧ ¬ handler.Expires now session := by
    simp only [← AList.lookup_isSome, Option.isSome_iff_exists, lookup_cleaned]
  rw [record_start, ← held]
  split
  · rename_i present
    simp [present, eq_comm]
  · rename_i free
    split <;> simp [free]

theorem respects_start :
    handler.Respects now (.handleStart sessionId username nasIp packet) sessions ↔
      handler.Apart now sessions (.handleStart sessionId username nasIp packet) := by
  refine ⟨fun respects session found => ?_, fun apart => ⟨fun other session found _ => ?_, fun blocked refused => ?_⟩⟩
  · by_cases expires : handler.Expires now session
    · exact .inr expires
    · obtain ⟨own, same, nas⟩ := respects.unblocked _ (start_duplicate.mpr ⟨rfl, session, found, expires⟩)
      rw [found] at same
      cases same
      exact .inl nas
  · by_cases expires : handler.Expires now session
    · exact .inr ⟨rfl, expires⟩
    · have lasting := lookup_cleaned.mpr ⟨found, expires⟩
      rw [record_start]
      grind
  · obtain ⟨rfl, session, found, lasting⟩ := start_duplicate.mp refused
    exact ⟨session, found, (apart session found).resolve_right lasting⟩

theorem respects_iff {call : AccountingCall} : handler.Respects now call sessions ↔ handler.Apart now sessions call := by
  cases call with
  | handleStart sessionId username nasIp packet => exact respects_start
  | handleStop sessionId username nasIp packet | handleInterimUpdate sessionId username nasIp packet =>
    refine ⟨fun respects session found => ?_, fun apart => ⟨fun other session found foreign => ?_, fun _ refused => ?_⟩⟩
    · have kept := respects.kept sessionId session found
      grind [record_stop, record_interimUpdate]
    · grind [record_stop, record_interimUpdate]
    · grind [record_stop, record_interimUpdate]
  | handleAccountingOn nasIp packet =>
    exact ⟨fun _ => trivial, fun _ => ⟨fun _ _ found _ => .inl found, fun _ refused => by cases refused⟩⟩
  | handleAccountingOff nasIp packet =>
    refine ⟨fun _ => trivial, fun _ => ⟨fun sessionId session found foreign => .inl ?_, fun _ refused => by cases refused⟩⟩
    have retained : (handler.record now (.handleAccountingOff nasIp packet) sessions).2.lookup sessionId =
        (sessions.lookup sessionId).filter (·.nasIp ≠ nasIp) := Maps.lookup_retain _ _ _
    rw [retained, found, Option.filter_eq_some_iff]
    exact ⟨rfl, decide_eq_true foreign⟩

/-- Every call of a sequence, with its time, meets a condition on the sessions it finds. -/
def Throughout (handler : SimpleAccountingHandler) (meets : Nat → AccountingCall → Sessions → Prop) :
    List (Nat × AccountingCall) → Sessions → Prop
  | [], _ => True
  | (now, call) :: rest, sessions =>
    meets now call sessions ∧ Throughout handler meets rest (handler.record now call sessions).2

theorem ownership_iff (handler : SimpleAccountingHandler) (calls : List (Nat × AccountingCall)) (sessions : Sessions) :
    handler.Throughout handler.Respects calls sessions ↔
      handler.Throughout (fun now call sessions => handler.Apart now sessions call) calls sessions := by
  induction calls generalizing sessions with
  | nil => exact Iff.rfl
  | cons first rest ih => exact and_congr respects_iff (ih _)

section Strangers

def oneNas : IpAddr := .ofOctets 192 0 2 1

def otherNas : IpAddr := .ofOctets 192 0 2 2

def barePacket : Packet := .new .accountingRequest 1 (.zero 16)

/-- Two NASes that number their sessions alike: the second cannot start its session,
and its Stop ends the session of the first. -/
theorem sameSessionId_shared :
    ¬ new.Throughout new.Respects
      [(0, .handleStart "1" "alice" oneNas barePacket), (1, .handleStart "1" "bob" otherNas barePacket)] ∅ ∧
    ¬ new.Throughout new.Respects
      [(0, .handleStart "1" "alice" oneNas barePacket), (2, .handleStop "1" "bob" otherNas barePacket)] ∅ := by
  have held : (new.record 0 (.handleStart "1" "alice" oneNas barePacket) ∅).2.lookup "1" =
      some (.started "1" "alice" oneNas 0 0) := by decide +kernel
  refine ⟨fun ⟨_, started, _⟩ => ?_, fun ⟨_, stopped, _⟩ => ?_⟩
  · rcases respects_start.mp started _ held with same | expires
    · exact absurd same (by decide +kernel)
    · exact absurd expires.2 (by decide +kernel)
  · exact absurd (respects_iff.mp stopped _ held) (by decide +kernel)

end Strangers

end SimpleAccountingHandler

end UsgRadius.Server
