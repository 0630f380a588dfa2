import UsgRadius.Proxy.Courses
import UsgRadius.Proxy.Tasks

namespace UsgRadius.Proxy

open Data Program Protocol

/-! The programs of the proxy keep to their protocols: what they may do to a
Proxy-State key, and which frames they queue for a request. -/

def conduct : Protocol Effect (Phase × Course) :=
  lifecycle.both sendings

section Conduct

variable {digests : Digests} {config : RetryConfig} {course : Course} {entry : ProxyCacheEntry}
  {todo : List ProxyCacheEntry} {bytes : Octets}

/-- The request of the entry is stored, and its frame is to be sent. -/
def Sends (entry : ProxyCacheEntry) (state : Phase × Course) : Prop :=
  state = (.idle, .sending entry) ∨ ∃ todo, state = (.retrying, .resending entry todo)

theorem sendToHomeServer_conducts {state : Phase × Course} (sends : Sends entry state)
    (encoded : entry.originalRequest.encode = .ok bytes) :
    conduct.Follows (fun after _ => after = state ∨ after = (state.1, state.2.sent)) state
      (sendToHomeServer bytes entry.homeServer) := by
  unfold sendToHomeServer
  rcases sends with rfl | ⟨todo, rfl⟩
  all_goals
    split
    · refine .ask ⟨trivial, trivial⟩ fun sent => ?_
      cases sent <;> exact .inl rfl
    · rename_i radsec
      refine .ask ⟨trivial, trivial⟩ fun view => ?_
      cases view with
      | none => exact .inl rfl
      | some link =>
        refine .ask ⟨trivial, trivial⟩ fun connected => ?_
        cases connected with
        | false => exact .inl rfl
        | true =>
          refine .ask ⟨trivial, rfl, radsec, encoded⟩ fun outcome => ?_
          rcases outcome with _ | _ | _ <;> exact .inr rfl

theorem forwardRequest_conducts (request : Packet) (source : SocketAddr) (homeServer : HomeServer)
    (clientSecret : Octets) :
    conduct.Follows (fun after _ => conduct.rests after) (.forwarding, .opening)
      (forwardRequest digests request source homeServer clientSecret) := by
  unfold forwardRequest
  dsimp only
  split
  · exact ⟨trivial, trivial⟩
  · refine .ask ⟨trivial, rfl⟩ fun key => ?_
    refine .check (fun _ => ⟨trivial, trivial⟩) fun rewritten rewrites => ?_
    refine .ask ⟨trivial, trivial⟩ fun time => .ask ⟨trivial, trivial⟩ fun view => ?_
    have last := rewriteRequest_lastProxyState (liftError_eq_ok.mp rewrites)
    refine .ask ⟨rfl, rfl, last⟩ fun stored => ?_
    cases stored with
    | error reason => exact ⟨trivial, trivial⟩
    | ok _ =>
      refine .ask ⟨trivial, trivial⟩ fun _ => ?_
      refine .check (fun _ => ⟨trivial, trivial⟩) fun requestData encoded => ?_
      have written := liftPacket_eq_ok.mp (liftError_eq_ok.mp encoded)
      refine Follows.bind (Follows.mono (sendToHomeServer_conducts (.inl rfl) written) ?_)
      intro after outcome reached
      rcases reached with rfl | rfl <;> cases outcome <;> exact ⟨trivial, trivial⟩

theorem relayResponse_conducts (response : Packet) (proxyState : ProxyStateKey) (entry : ProxyCacheEntry) :
    conduct.Conforms (.replying proxyState, .resting)
      (relayResponse digests response proxyState entry) := by
  refine .ask ⟨trivial, trivial⟩ fun _ => .ask ⟨trivial, trivial⟩ fun draw => ?_
  refine .check (fun _ => ⟨trivial, trivial⟩) fun relayed _ => ?_
  refine .check (fun _ => ⟨trivial, trivial⟩) fun bytes _ => ?_
  refine .ask ⟨rfl, trivial⟩ fun sent => ?_
  cases sent <;> exact ⟨trivial, trivial⟩

theorem handleResponseFrom_conducts (response : Packet) (origin : ResponseOrigin) :
    conduct.Conforms (.responding, .resting) (handleResponseFrom digests response origin) := by
  unfold handleResponseFrom
  split
  · exact ⟨trivial, trivial⟩
  · refine .ask ⟨trivial, trivial⟩ fun found => ?_
    cases found with
    | none => exact ⟨trivial, trivial⟩
    | some entry =>
      dsimp only
      split
      · exact ⟨trivial, trivial⟩
      · refine .check (fun _ => ⟨trivial, trivial⟩) fun verified _ => ?_
        cases verified with
        | false =>
          cases origin with
          | udp address => exact ⟨trivial, trivial⟩
          | link server generation =>
            refine .ask ⟨trivial, trivial⟩ fun view => ?_
            cases view with
            | none => exact ⟨trivial, trivial⟩
            | some view => exact ⟨⟨trivial, trivial⟩, fun _ => ⟨trivial, trivial⟩⟩
        | true =>
          refine .ask ⟨trivial, trivial⟩ fun removed => ?_
          cases removed with
          | none => exact ⟨trivial, trivial⟩
          | some entry => exact relayResponse_conducts _ _ _

theorem removeExpired_conducts (keys : List ProxyStateKey) :
    conduct.Conforms (.cleaning, .resting) (removeExpired keys) := by
  induction keys with
  | nil => exact ⟨trivial, trivial⟩
  | cons key rest ih =>
    refine .ask ⟨trivial, trivial⟩ fun removed => ?_
    cases removed with
    | none => exact ih
    | some entry => exact .ask ⟨trivial, trivial⟩ fun _ => ih

/-- The retry manager has these entries still to handle. -/
def Remaining (todo : List ProxyCacheEntry) (state : Phase × Course) : Prop :=
  state.1 = .retrying ∧ state.2.rest = todo

theorem rejection_conducts (exhausted : config.maxRetries ≤ entry.retryCount) (next : course.rest = entry :: todo) :
    conduct.Follows (fun after _ => Remaining todo after) (.retrying, course)
      (handleTimeout digests config entry) := by
  have encoded : (rejectPacket digests entry).encode = .ok (rejectPacket digests entry).bytes :=
    Packet.encode_eq_ok.mpr ⟨rejectPacket_encodable digests entry, rfl⟩
  have replied := fun sent => @Course.replied_rest course entry todo sent next
  simp only [handleTimeout, if_pos exhausted, sendReject, timeoutReject_eq, encoded, check, liftPacket, liftError_ok,
    Program.ok_bind]
  refine .ask ⟨trivial, trivial⟩ fun sent => ?_
  change conduct.Follows _ (_, course.replied sent) _
  rw [replied]
  cases sent with
  | false => exact ⟨rfl, rfl⟩
  | true => exact ⟨⟨rfl, trivial⟩, fun _ => ⟨⟨trivial, trivial⟩, fun _ => ⟨rfl, rfl⟩⟩⟩

def storeRetry (entry : ProxyCacheEntry) (resend : Bool) (time : Nat) (generation : Option UInt64) :
    Program Effect Fault Unit := do
  let requestData ← check (liftError (liftPacket entry.originalRequest.encode))
  let stored ← ask (.cacheInsert
    { entry with retryCount := entry.retryCount + 1, sentAt := time, sentOnConnection := generation })
  check (liftError stored)
  ask (.recordRequest entry.homeServer)
  if !resend then
    return ()
  else do
    let _ ← attempt (sendToHomeServer requestData entry.homeServer)
    return ()

/-- What a retry does once it knows whether the request goes out again, and on
which connection it is recorded. -/
theorem storeRetry_conducts {resend : Bool} {time : Nat} {generation : Option UInt64}
    (decided : course = if resend then .storing entry generation todo else .keeping entry todo)
    (kept : resend = false → generation = entry.sentOnConnection) :
    conduct.Follows (fun after _ => Remaining todo after)
      (.retrying, course) (storeRetry entry resend time generation) := by
  subst decided
  unfold storeRetry
  cases encoded : entry.originalRequest.encode with
  | error reason =>
    cases resend <;> exact ⟨rfl, rfl⟩
  | ok requestData =>
    cases resend with
    | false =>
      cases kept rfl
      refine .ask ⟨trivial, rfl, rfl, rfl, rfl⟩ fun stored => ?_
      cases stored with
      | error reason => exact ⟨rfl, rfl⟩
      | ok _ => exact .ask ⟨trivial, trivial⟩ fun _ => ⟨rfl, rfl⟩
    | true =>
      refine .ask ⟨trivial, rfl, rfl, rfl, rfl⟩ fun stored => ?_
      cases stored with
      | error reason => exact ⟨rfl, rfl⟩
      | ok _ =>
        refine .ask ⟨trivial, trivial⟩ fun _ => ?_
        have sends := @sendToHomeServer_conducts
          { entry with retryCount := entry.retryCount + 1, sentAt := time, sentOnConnection := generation } requestData _
          (.inr ⟨todo, rfl⟩) encoded
        refine Follows.bind (Follows.attempt (sends.mono ?_))
        intro after outcome reached
        rcases reached with rfl | rfl <;> exact ⟨rfl, rfl⟩

section Reading

variable {Value : Type} {post : Phase × Course → Except Fault Value → Prop} {server : HomeServer}

theorem now_conducts {next : Nat → Program Effect Fault Value}
    (rest : ∀ time, conduct.Follows post (.retrying, course) (next time)) :
    conduct.Follows post (.retrying, course) (ask .now >>= next) :=
  .ask ⟨trivial, trivial⟩ rest

theorem link_conducts {next : Option LinkView → Program Effect Fault Value} (reads : course.mayRead server)
    (rest : ∀ view, conduct.Follows post (.retrying, course.read view) (next view)) :
    conduct.Follows post (.retrying, course) (ask (.link server) >>= next) :=
  .ask ⟨trivial, reads⟩ rest

end Reading

theorem retryRequest_conducts (next : course.rest = entry :: todo) :
    conduct.Follows (fun after _ => Remaining todo after) (.retrying, course)
      (retryRequest config entry) := by
  simp only [retryRequest, ite_self]
  refine .ask ⟨trivial, trivial⟩ fun _ => ?_
  change conduct.Follows _ (.retrying, course.counted) _
  rw [Course.counted_rest next, mayResend]
  cases transport : entry.homeServer.transport with
  | udp =>
    refine now_conducts fun time => link_conducts rfl fun view => ?_
    simp only [Course.read, transport]
    exact storeRetry_conducts rfl (by simp)
  | radsec =>
    refine link_conducts rfl fun view => ?_
    simp only [Course.read, transport]
    cases view with
    | none => exact now_conducts fun time => link_conducts rfl fun view => storeRetry_conducts rfl (by simp)
    | some link =>
      show conduct.Follows _ (_, if resends (some link) entry.sentOnConnection then _ else _)
        (ask .now >>= fun time => connectionOfRetry _ (resends (some link) entry.sentOnConnection) _ >>= fun _ =>
          storeRetry entry (resends (some link) entry.sentOnConnection) time _)
      cases resends (some link) entry.sentOnConnection with
      | true => exact now_conducts fun time => link_conducts rfl fun view => storeRetry_conducts rfl (by simp)
      | false => exact now_conducts fun time => storeRetry_conducts rfl fun _ => rfl

theorem handleTimeouts_conducts (entries : List ProxyCacheEntry) (next : course.rest = entries) :
    conduct.Conforms (.retrying, course) (handleTimeouts digests config entries) := by
  induction entries generalizing course with
  | nil => exact ⟨trivial, trivial⟩
  | cons entry rest ih =>
    have first : conduct.Follows (fun after _ => Remaining rest after) (.retrying, course)
        (handleTimeout digests config entry) := by
      by_cases exhausted : config.maxRetries ≤ entry.retryCount
      · exact rejection_conducts exhausted next
      · rw [handleTimeout, if_neg exhausted]
        exact retryRequest_conducts next
    refine Follows.bind (Follows.attempt (first.mono ?_))
    intro after outcome ready
    obtain ⟨phase, course⟩ := after
    obtain ⟨rfl, left⟩ := ready
    dsimp only
    split
    · exact ⟨trivial, trivial⟩
    · exact ih left

theorem tasks_conduct (digests : Digests) (settings : Settings) (task : Task) :
    conduct.Conforms (task.first, task.opens) ((tasks digests settings).start task) := by
  cases task with
  | forward request source homeServer clientSecret =>
    refine Follows.bind (Follows.mono (forwardRequest_conducts request source homeServer clientSecret) ?_)
    intro after outcome rests
    cases outcome <;> exact rests
  | respond response origin => exact handleResponseFrom_conducts response origin
  | retry => exact .ask ⟨trivial, rfl⟩ fun timedOut => handleTimeouts_conducts timedOut rfl
  | cleanup => exact .ask ⟨trivial, trivial⟩ fun expired => removeExpired_conducts expired

theorem tasks_conform (digests : Digests) (settings : Settings) (task : Task) :
    lifecycle.Conforms task.first ((tasks digests settings).start task) :=
  (tasks_conduct digests settings task).left

end Conduct

end UsgRadius.Proxy
