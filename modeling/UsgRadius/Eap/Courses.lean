import UsgRadius.Eap.AcceptInvariant

namespace UsgRadius.Eap

open Data Program Protocol EapTlsServer

namespace EapAuthHandler

/-! What every call of the handler does, step by step: how it nests its locks,
which session it works on, which method state it has yet to drop, and that it
does to its conversation only what the owner may. -/

variable {Connection Value Next : Type}

def locking : Locking (Effect Connection) Lock
  | _, .acquire lock mode => some (.acquire lock mode)
  | _, .release lock mode => some (.release lock mode)
  | _, _ => none

/-- The locks taken while others are held: a method that starts or goes on takes
the session manager's inside its own, a Nak the other way round. -/
def mayTake : Held Lock → Lock → LockMode → Prop
  | [], _, _ => True
  | [(.tlsConfigs, .read)], .teapSessions, .write => True
  | [(.tlsSessions, .write)], .sessionManager, .write => True
  | [(.teapSessions, .write)], .sessionManager, .write => True
  | [(.teapSessions, .write), (.tlsConfigs, .read)], .sessionManager, .write => True
  | [(.sessionManager, .read)], .tlsSessions, .read => True
  | [(.sessionManager, .read)], .teapSessions, .read => True
  | _, _, _ => False

abbrev lockOrder (Connection : Type) : Protocol (Effect Connection) (Held Lock) :=
  nesting locking mayTake

/-- Whether shared state is only touched under its lock: a call that reads it may
hold the lock for reading. -/
def guarded (held : Held Lock) : (Answer : Type) → Effect Connection Answer → Bool
  | _, .acquire _ _ | _, .release _ _ => false
  | _, .evictIdleAt _ | _, .evictAt _ | _, .createSession _ _ | _, .updateSession _ _ | _, .nextIdentifier _
  | _, .claimResponse _ _ _ | _, .removeSession _ => held.contains (.sessionManager, .write)
  | _, .sessionCount | _, .getSession _ => held.any fun lock => lock.1 = .sessionManager
  | _, .tlsGet _ => held.any fun lock => lock.1 = .tlsSessions
  | _, .tlsPut _ _ | _, .tlsRemove _ => held.contains (.tlsSessions, .write)
  | _, .teapGet _ => held.any fun lock => lock.1 = .teapSessions
  | _, .teapPut _ _ | _, .teapRemove _ => held.contains (.teapSessions, .write)
  | _, _ => true

theorem silent_of_guarded {held : Held Lock} {Answer : Type} {effect : Effect Connection Answer}
    (tended : guarded held Answer effect = true) : locking Answer effect = none := by
  cases effect with
  | acquire lock mode | release lock mode => cases tended
  | _ => rfl

/-- How far a call has come that may create a session. -/
inductive Room where
  | never
  | unmade
  | made
  /-- Room is made, and the State of the new session is drawn. -/
  | ready (id : SessionId)
deriving DecidableEq

def Room.make : Room → Room
  | never => never
  | _ => made

def Room.isMade : Room → Bool
  | made | ready _ => true
  | _ => false

def Room.choose (state : Block stateLength) : Room → Room
  | made => ready (Hex.encode state.octets)
  | room => room

structure Work where
  id : SessionId
  /-- The TLS state was found in the map, whose lock is held. -/
  fetched : Bool
  /-- TLS state was put into the map for a session that may be gone. -/
  owing : Bool
  /-- The Identifier of the Response that the call works on. -/
  last : Option UInt8
  /-- The answer to the call's request for a new Identifier. -/
  drawn : Option (Option UInt8)

inductive Stage where
  /-- The call works on no session and has yet to drop the method state of these. -/
  | free (room : Room) (tls teap : List SessionId)
  | working (work : Work)

namespace Stage

def owesTls (id : SessionId) : Stage → Prop
  | free _ tls _ => id ∈ tls
  | working work => work.owing = true ∧ id = work.id

def owesTeap (id : SessionId) : Stage → Prop
  | free _ _ teap => id ∈ teap
  | working _ => False

def room : Stage → Room
  | free room _ _ => room
  | working _ => .never

def permits (stage : Stage) : (Answer : Type) → Effect Connection Answer → Prop
  | _, .evictIdleAt _ | _, .evictAt _ | _, .claimResponse _ _ _ => ∃ room, stage = free room [] []
  | _, .createSession id _ => stage = free (.ready id) [] []
  | _, .updateSession id (.seed _) => ∃ work, stage = working work ∧ work.id = id ∧ work.drawn = none ∧ work.last = none
  | _, .nextIdentifier id => ∃ work, stage = working work ∧ work.id = id ∧ work.drawn = none
  | _, .updateSession id _ | _, .removeSession id => ∃ work, stage = working work ∧ work.id = id
  | _, .tlsPut id _ | _, .teapPut id _ => ∃ work, stage = working work ∧ work.id = id
  | _, .tlsRemove ids => ∀ id, stage.owesTls id → id ∈ ids
  | _, .teapRemove ids => ∀ id, stage.owesTeap id → id ∈ ids
  | _, _ => True

def unfetched : Stage → Stage
  | free room tls teap => free room tls teap
  | working work => working { work with fetched := false }

def released (lock : Lock) (stage : Stage) : Stage :=
  match lock with
  | .tlsSessions => stage.unfetched
  | _ => stage

def advance (stage : Stage) (Answer : Type) (effect : Effect Connection Answer) (answer : Answer) : Stage :=
  match effect, answer, stage with
  | .release lock _, _, stage => stage.released lock
  | .evictIdleAt _, evicted, free room _ _ => free room (evicted.map Prod.fst) (evicted.map Prod.fst)
  | .evictAt _, evicted, free room _ _ => free room.make (evicted.map Prod.fst) (evicted.map Prod.fst)
  | .drawState, some state, free room tls teap => free (room.choose state) tls teap
  | .createSession id _, _, _ => working ⟨id, false, false, none, none⟩
  | .claimResponse id _ identifier, .claimed, _ => working ⟨id, false, false, some identifier, none⟩
  | .updateSession _ (.seed identifier), _, working work => working { work with last := some identifier }
  | .nextIdentifier _, some identifier, working work => working { work with owing := false, drawn := some (some identifier) }
  | .nextIdentifier _, none, working work => working { work with drawn := some none }
  | .removeSession id, _, _ => free .never [id] [id]
  | .tlsGet id, some _, working work => working { work with fetched := work.fetched || id == work.id }
  | .tlsPut _ _, _, working work => working { work with owing := work.owing || !work.fetched }
  | .tlsRemove _, _, free room _ teap => free room [] teap
  | .tlsRemove _, _, working work => working { work with fetched := false, owing := false }
  | .teapRemove _, _, free room tls _ => free room tls []
  | _, _, stage => stage

def dropped : Stage → Stage
  | free room _ _ => free room [] []
  | working work => working { work with fetched := false, owing := false }

def rests : Stage → Prop
  | free _ tls teap => tls = [] ∧ teap = []
  | working work => work.owing = false

end Stage

/-- How the calls of the handler nest their locks, work on sessions and drop
method state. -/
def courses (Connection : Type) : Protocol (Effect Connection) (Stage × Held Lock) where
  permits state Answer effect := state.1.permits Answer effect ∧ (lockOrder Connection).permits state.2 Answer effect ∧
    (locking Answer effect = none → guarded state.2 Answer effect = true)
  advance state Answer effect answer :=
    (state.1.advance Answer effect answer, (lockOrder Connection).advance state.2 Answer effect answer)
  rests state := state.1.rests ∧ state.2 = []

/-- The program takes a call from one stage to another, does in between what the
protocols allow and gives back every lock it takes. -/
def Leads (engine : TlsEngine Connection) (hmacs : Hmacs) (settings : Settings) (held : Held Lock) (stage : Stage)
    (phase : Phase Connection) (program : Action Connection Value) (post : Stage → Phase Connection → Value → Prop) : Prop :=
  ((courses Connection).both (custody engine hmacs settings)).Follows
    (fun after outcome => after.1.2 = held ∧ ∀ value, outcome = .ok value → post after.1.1 after.2 value)
    ((stage, held), phase) program

section Rules

variable {engine : TlsEngine Connection} {hmacs : Hmacs} {settings : Settings} {stage : Stage} {held : Held Lock}
  {phase : Phase Connection} {post : Stage → Phase Connection → Value → Prop} {lock : Lock} {mode : LockMode}
  {Answer : Type} {effect : Effect Connection Answer} {next : Answer → Action Connection Value}
  {program : Action Connection Value}

theorem leads_pure {value : Value} (holds : post stage phase value) :
    Leads engine hmacs settings held stage phase (pure value) post := by
  refine ⟨rfl, fun other same => ?_⟩
  cases same
  exact holds

theorem Leads.bind {next : Value → Action Connection Next} {last : Stage → Phase Connection → Next → Prop}
    (first : Leads engine hmacs settings held stage phase program post)
    (rest : ∀ stage phase value, post stage phase value → Leads engine hmacs settings held stage phase (next value) last) :
    Leads engine hmacs settings held stage phase (program >>= next) last := by
  apply Follows.bind
  apply Follows.mono first
  intro after outcome ended
  obtain ⟨⟨stage, still⟩, phase⟩ := after
  obtain ⟨rfl, holds⟩ := ended
  cases outcome with
  | error impossible => exact impossible.elim
  | ok value => exact rest stage phase value (holds value rfl)

theorem Leads.mono {weaker : Stage → Phase Connection → Value → Prop}
    (leads : Leads engine hmacs settings held stage phase program post)
    (implies : ∀ stage phase value, post stage phase value → weaker stage phase value) :
    Leads engine hmacs settings held stage phase program weaker :=
  Follows.mono leads fun _ _ ended => ⟨ended.1, fun value same => implies _ _ _ (ended.2 value same)⟩

theorem leads_ask (tended : guarded held Answer effect = true) (permitted : stage.permits Answer effect)
    (owned : phase.permits engine hmacs settings Answer effect)
    (rest : ∀ answer, Leads engine hmacs settings held (stage.advance Answer effect answer)
      (phase.advance engine settings Answer effect answer) (next answer) post) :
    Leads engine hmacs settings held stage phase (ask effect >>= next) post := by
  have silent := silent_of_guarded tended
  refine Follows.ask ⟨⟨permitted, ?_, fun _ => tended⟩, owned⟩ fun answer => ?_
  · simp only [lockOrder, nesting, silent]
  · simp only [both, courses, lockOrder, nesting, silent]
    exact rest answer

theorem advance_locking {answer : Answer} (locks : locking Answer effect ≠ none) :
    phase.advance engine settings Answer effect answer = phase := by
  obtain ⟨request, grip, drawn⟩ := phase
  cases effect with
  | acquire _ _ | release _ _ => cases grip <;> rfl
  | _ => exact absurd rfl locks

theorem leads_locked {body : Action Connection Value} (may : mayTake held lock mode)
    (inside : Leads engine hmacs settings ((lock, mode) :: held) stage phase body fun after => post (after.released lock)) :
    Leads engine hmacs settings held stage phase (locked lock mode body) post := by
  have taken : Phase.advance engine settings phase Unit (.acquire lock mode) () = phase := advance_locking (by simp [locking])
  refine Follows.ask ⟨⟨trivial, may, fun silent => by cases silent⟩, trivial⟩ fun _ => ?_
  apply Follows.bind
  simp only [both, custody, taken]
  apply Follows.mono inside
  intro after outcome ended
  obtain ⟨⟨stage, still⟩, phase⟩ := after
  obtain ⟨rfl, holds⟩ := ended
  have given : Phase.advance engine settings phase Unit (.release lock mode) () = phase := advance_locking (by simp [locking])
  cases outcome with
  | error impossible => exact impossible.elim
  | ok value =>
    refine ⟨⟨⟨trivial, rfl, fun silent => by cases silent⟩, trivial⟩, fun _ => ⟨rfl, fun other same => ?_⟩⟩
    cases same
    change post (stage.released lock) (Phase.advance engine settings phase Unit (.release lock mode) ()) value
    rw [given]
    exact holds value rfl

theorem locked_ask {post : Stage → Phase Connection → Answer → Prop} (may : mayTake held lock mode)
    (tended : guarded ((lock, mode) :: held) Answer effect = true) (permitted : stage.permits Answer effect)
    (owned : phase.permits engine hmacs settings Answer effect)
    (holds : ∀ answer, post ((stage.advance Answer effect answer).released lock)
      (phase.advance engine settings Answer effect answer) answer) :
    Leads engine hmacs settings held stage phase (locked lock mode (ask effect)) post :=
  leads_locked may (leads_ask tended permitted owned fun answer => leads_pure (holds answer))

theorem locked_bind (may : mayTake held lock mode) (tended : guarded ((lock, mode) :: held) Answer effect = true)
    (permitted : stage.permits Answer effect) (owned : phase.permits engine hmacs settings Answer effect)
    (rest : ∀ answer, Leads engine hmacs settings held ((stage.advance Answer effect answer).released lock)
      (phase.advance engine settings Answer effect answer) (next answer) post) :
    Leads engine hmacs settings held stage phase (locked lock mode (ask effect) >>= next) post := by
  have first : Leads engine hmacs settings held stage phase (locked lock mode (ask effect)) fun after reached answer =>
      after = (stage.advance Answer effect answer).released lock ∧
        reached = phase.advance engine settings Answer effect answer :=
    locked_ask may tended permitted owned fun answer => ⟨rfl, rfl⟩
  apply first.bind
  intro after reached answer same
  obtain ⟨rfl, rfl⟩ := same
  exact rest answer

theorem configured_bind {Config : Type} {config : Config} {next : Config → Action Connection Value}
    (rest : Leads engine hmacs settings [] stage phase (next config) post) :
    Leads engine hmacs settings [] stage phase (locked .tlsConfigs .read (return config) >>= next) post := by
  have first : Leads engine hmacs settings [] stage phase (locked .tlsConfigs .read (return config))
      fun after reached value => after = stage ∧ reached = phase ∧ value = config :=
    leads_locked trivial (leads_pure ⟨rfl, rfl, rfl⟩)
  apply first.bind
  intro after reached value same
  obtain ⟨rfl, rfl, rfl⟩ := same
  exact rest

end Rules

section Walk

variable {engine : TlsEngine Connection} {hmacs : Hmacs} {settings : Settings} {held : Held Lock} {room : Room}
  {request : Option Arrival} {arrival : Arrival} {id : SessionId} {last : Option UInt8} {fetched owing : Bool}
  {grip : Grip Connection} {response packet : EapPacket} {stage : Stage} {phase : Phase Connection}
  {drawn : Option (Option UInt8)} {result : AuthResult} {message : Option String} {identifier : UInt8}

theorem dropMethodState_leads {ids : List SessionId} (tls : ∀ id, stage.owesTls id → id ∈ ids)
    (teap : ∀ id, stage.owesTeap id → id ∈ ids) :
    Leads engine hmacs settings [] stage phase (dropMethodState ids) fun after reached _ => after = stage.dropped ∧
      reached = (phase.advance engine settings Unit (.tlsRemove ids) ()).advance engine settings Unit (.teapRemove ids) () := by
  refine locked_bind trivial rfl tls trivial fun _ => ?_
  cases stage with
  | free _ _ _ | working _ => exact locked_ask trivial rfl teap trivial fun _ => ⟨rfl, rfl⟩

theorem dropEvicted_leads (evicted : List (SessionId × EvictionReason)) :
    Leads engine hmacs settings [] (.free room (evicted.map Prod.fst) (evicted.map Prod.fst)) ⟨request, none, none⟩
      (dropEvicted evicted) fun after reached _ => after = .free room [] [] ∧ reached = ⟨request, none, none⟩ := by
  unfold dropEvicted
  split
  · rename_i empty
    cases List.isEmpty_iff.mp empty
    exact leads_pure ⟨rfl, rfl⟩
  · apply (dropMethodState_leads (fun _ owed => owed) fun _ owed => owed).bind
    intro after reached _ same
    obtain ⟨rfl, rfl⟩ := same
    exact locked_bind trivial rfl trivial trivial fun _ => leads_pure ⟨rfl, rfl⟩

theorem reapAt_leads (now : Nat) :
    Leads engine hmacs settings [] (.free room [] []) ⟨request, none, none⟩ (reapAt now) fun after reached _ =>
      after = .free room.make [] [] ∧ reached = ⟨request, none, none⟩ :=
  locked_bind trivial rfl ⟨room, rfl⟩ trivial dropEvicted_leads

theorem reapIdleAt_leads (now : Nat) :
    Leads engine hmacs settings [] (.free room [] []) ⟨request, none, none⟩ (reapIdleAt now) fun after reached _ =>
      after = .free room [] [] ∧ reached = ⟨request, none, none⟩ :=
  locked_bind trivial rfl ⟨room, rfl⟩ trivial dropEvicted_leads

/-- The Access-Challenge carries a Request of the session with the Identifier
that was drawn for it. -/
structure Challenged (work : Work) (state : Octets) (attributes : List Attribute) : Prop where
  settled : work.owing = false
  state : state = stateFor work.id
  carries : ∃ packet drawn, packet.code = .request ∧ eapToRadiusAttributes packet = .ok attributes ∧
    work.drawn = some drawn ∧ ∀ identifier, drawn = some identifier → packet.identifier = identifier

/-- What the work on a session comes to. -/
def Answers (id : SessionId) (last : Option UInt8) (stage : Stage) (result : AuthResult) : Prop :=
  ∃ work, stage = .working work ∧ work.id = id ∧ work.last = last ∧
    ∀ message state attributes, result = .challenge message state attributes → Challenged work state attributes

def isChallenge : AuthResult → Bool
  | .challenge _ _ _ => true
  | _ => false

theorem answers_final (final : isChallenge result = false) :
    Answers id last (.working ⟨id, fetched, owing, last, drawn⟩) result := by
  refine ⟨_, rfl, rfl, rfl, fun message state attributes same => ?_⟩
  subst same
  cases final

theorem answers_challenge {drawn : Option UInt8} (asks : packet.code = .request)
    (numbered : ∀ identifier, drawn = some identifier → packet.identifier = identifier) :
    Answers id last (.working ⟨id, fetched, false, last, some drawn⟩) (challenge id message packet) := by
  refine ⟨_, rfl, rfl, rfl, fun text state attributes same => ?_⟩
  unfold challenge at same
  split at same
  · rename_i made
    cases same
    exact ⟨rfl, rfl, packet, drawn, asks, made, rfl, numbered⟩
  · cases same

/-- The result is no Access-Accept, or the call may give it. -/
def Earned (engine : TlsEngine Connection) (hmacs : Hmacs) (arrival : Arrival) (phase : Phase Connection)
    (result : AuthResult) : Prop :=
  phase.arrival = some arrival ∧ ∀ attributes msk, result = .accept attributes msk →
    ∃ grip, phase.grip = some grip ∧ grip.Wins engine hmacs arrival msk

def Replies (engine : TlsEngine Connection) (hmacs : Hmacs) (arrival : Arrival) (id : SessionId) (last : Option UInt8)
    (stage : Stage) (phase : Phase Connection) (result : AuthResult) : Prop :=
  Answers id last stage result ∧ Earned engine hmacs arrival phase result

theorem leads_reject (known : phase.arrival = some arrival) :
    Leads engine hmacs settings held (.working ⟨id, fetched, owing, last, drawn⟩) phase (return .reject)
      (Replies engine hmacs arrival id last) :=
  leads_pure ⟨answers_final rfl, known, fun _ _ impossible => by cases impossible⟩

theorem replies_challenge {drawn : Option UInt8} (known : phase.arrival = some arrival) (asks : packet.code = .request)
    (numbered : ∀ identifier, drawn = some identifier → packet.identifier = identifier) :
    Replies engine hmacs arrival id last (.working ⟨id, fetched, false, last, some drawn⟩) phase
      (challenge id message packet) := by
  refine ⟨answers_challenge asks numbered, known, fun attributes msk impossible => ?_⟩
  unfold challenge at impossible
  split at impossible <;> cases impossible

/-- The rest of the work on a session that no new Identifier is drawn for yet. -/
def Works (engine : TlsEngine Connection) (hmacs : Hmacs) (settings : Settings) (arrival : Arrival) (last : Option UInt8)
    (held : Held Lock) (fetched : Bool) (grip : Grip Connection) (program : Action Connection AuthResult) : Prop :=
  Leads engine hmacs settings held (.working ⟨grip.id, fetched, false, last, none⟩) ⟨some arrival, some grip, none⟩ program
    (Replies engine hmacs arrival grip.id last)

theorem Replies.unfetched (replies : Replies engine hmacs arrival id last stage phase result) :
    Replies engine hmacs arrival id last stage.unfetched phase result := by
  obtain ⟨⟨work, rfl, own, same, challenged⟩, earned⟩ := replies
  refine ⟨⟨_, rfl, own, same, fun message state attributes is => ?_⟩, earned⟩
  obtain ⟨settled, named, carries⟩ := challenged message state attributes is
  exact ⟨settled, named, carries⟩

def Concluded (last : Option UInt8) (stage : Stage) (result : AuthResult) : Prop :=
  (∃ room, stage = .free room [] [] ∧ isChallenge result = false) ∨
    ∃ work message state attributes, stage = .working work ∧ work.last = last ∧
      result = .challenge message state attributes ∧ Challenged work state attributes

/-- The call still earns its answer after what it does at the end of a conversation. -/
theorem Earned.drop (earned : Earned engine hmacs arrival phase result) (ids : List SessionId) :
    Earned engine hmacs arrival
      ((phase.advance engine settings Unit (.tlsRemove ids) ()).advance engine settings Unit (.teapRemove ids) ()) result := by
  refine ⟨earned.1, fun attributes msk accepted => ?_⟩
  obtain ⟨request, held, drawn⟩ := phase
  obtain ⟨grip, gripped, wins⟩ := earned.2 attributes msk accepted
  cases gripped
  by_cases member : grip.id ∈ ids
  · exact ⟨{ grip with noTls := true, noTeap := true }, by simp [Phase.advance, Grip.learn, member], wins⟩
  · exact ⟨grip, by simp [Phase.advance, Grip.learn, member], wins⟩

def Settled (engine : TlsEngine Connection) (hmacs : Hmacs) (arrival : Arrival) (last : Option UInt8) (stage : Stage)
    (phase : Phase Connection) (result : AuthResult) : Prop :=
  Concluded last stage result ∧ Earned engine hmacs arrival phase result

theorem settled_free (known : phase.arrival = some arrival) (final : isChallenge result = false)
    (refused : ∀ attributes msk, result ≠ .accept attributes msk) :
    Settled engine hmacs arrival last (.free room [] []) phase result :=
  ⟨.inl ⟨room, rfl, final⟩, known, fun attributes msk accepted => absurd accepted (refused attributes msk)⟩

theorem finish_leads (replies : Replies engine hmacs arrival id last stage phase result) :
    Leads engine hmacs settings [] stage phase (finish id result) (Settled engine hmacs arrival last) := by
  obtain ⟨⟨work, rfl, rfl, same, challenged⟩, earned⟩ := replies
  obtain ⟨request, grip, drawn⟩ := phase
  have ended : ∀ result, isChallenge result = false → Earned engine hmacs arrival ⟨request, grip, drawn⟩ result →
      Leads engine hmacs settings [] (.working work) ⟨request, grip, drawn⟩ (do endSession work.id; return result)
        (Settled engine hmacs arrival last) := by
    intro result final earned
    have gone : Leads engine hmacs settings [] (.working work) ⟨request, grip, drawn⟩ (endSession work.id)
        fun after reached _ => after = .free .never [] [] ∧ Earned engine hmacs arrival reached result := by
      refine locked_bind trivial rfl ⟨work, rfl, rfl⟩ trivial fun _ => ?_
      apply (dropMethodState_leads (fun _ owed => owed) fun _ owed => owed).mono
      intro after reached _ same
      obtain ⟨rfl, rfl⟩ := same
      refine ⟨rfl, Earned.drop ?_ _⟩
      cases grip <;> exact earned
    apply gone.bind
    intro after reached _ same
    obtain ⟨rfl, still⟩ := same
    exact leads_pure ⟨.inl ⟨.never, rfl, final⟩, still⟩
  cases result with
  | challenge message state attributes =>
    refine locked_bind trivial rfl ⟨work, rfl, rfl⟩ trivial fun _ => leads_pure ⟨?_, ?_⟩
    · exact .inr ⟨work, message, state, attributes, rfl, same, rfl, challenged message state attributes rfl⟩
    · cases grip <;> exact earned
  | accept _ _ | reject | discard => exact ended _ rfl earned

theorem startSession_leads :
    Leads engine hmacs settings [] (.free .unmade [] []) ⟨some arrival, none, none⟩ (startSession arrival.origin)
      fun stage phase started =>
        (started = none ∧ (∃ room, stage = .free room [] []) ∧ phase.arrival = some arrival) ∨
          ∃ id, started = some id ∧ stage = .working ⟨id, false, false, none, none⟩ ∧
            phase = ⟨some arrival, some (.creator id), none⟩ := by
  refine leads_ask rfl trivial trivial fun now => ?_
  apply (reapAt_leads now).bind
  intro after reached _ same
  obtain ⟨rfl, rfl⟩ := same
  refine leads_ask rfl trivial trivial fun drawn => ?_
  cases drawn with
  | none => exact leads_pure (.inl ⟨rfl, ⟨_, rfl⟩, rfl⟩)
  | some state =>
    have named : sessionIdForState (some state.octets) = some (Hex.encode state.octets) := if_pos state.size
    simp only [named]
    refine leads_locked trivial (leads_ask rfl trivial trivial fun found => ?_)
    cases found with
    | some session => exact leads_pure (.inl ⟨rfl, ⟨_, rfl⟩, rfl⟩)
    | none => exact leads_ask rfl rfl ⟨rfl, arrival, rfl, rfl⟩ fun _ => leads_pure (.inr ⟨_, rfl, rfl, rfl⟩)

theorem startEapTls_works (noTeap : grip.noTeap = true) (unfed : grip.unfed = true) :
    Works engine hmacs settings arrival last [] false grip (startEapTls settings grip.id) := by
  refine configured_bind ?_
  split
  · exact leads_reject rfl
  · refine leads_ask rfl trivial trivial fun opened => ?_
    cases opened with
    | error reason => exact leads_reject rfl
    | ok connection =>
      dsimp only
      split
      · exact leads_reject rfl
      · refine locked_bind trivial rfl ⟨_, rfl, rfl⟩ ⟨grip, rfl, rfl, noTeap, fun sent => by cases sent⟩ fun _ => ?_
        refine locked_bind trivial rfl ⟨_, rfl, rfl, rfl⟩ ⟨_, rfl, rfl, by simp [Grip.holdTls, unfed]⟩ fun identifier => ?_
        cases identifier with
        | none => exact leads_reject rfl
        | some identifier => exact leads_pure (replies_challenge rfl rfl fun other same => Option.some.inj same)

theorem startEapTeap_works (noTls : grip.noTls = true) (unfed : grip.unfed = true) (username : String) :
    Works engine hmacs settings arrival last [] false grip (startEapTeap settings username grip.id) := by
  refine leads_locked trivial ?_
  split
  · exact leads_reject rfl
  · refine leads_ask rfl trivial trivial fun password => ?_
    refine leads_ask rfl trivial trivial fun opened => ?_
    dsimp only
    split
    · exact leads_reject rfl
    · refine leads_locked trivial ?_
      refine leads_ask rfl ⟨_, rfl, rfl⟩ ⟨grip, rfl, rfl, noTls⟩ fun _ => ?_
      refine locked_bind trivial rfl ⟨_, rfl, rfl, rfl⟩ ⟨_, rfl, rfl, by simp [Grip.holdTeap, unfed]⟩ fun identifier => ?_
      cases identifier with
      | none => exact leads_pure (replies_challenge rfl rfl fun other impossible => by cases impossible)
      | some identifier => exact leads_pure (replies_challenge rfl rfl fun other same => Option.some.inj same)

theorem startMethod_works (noTls : grip.noTls = true) (noTeap : grip.noTeap = true) (unfed : grip.unfed = true)
    (username : String) (method : Option EapType) :
    Works engine hmacs settings arrival last [] false grip (startMethod settings username grip.id method) := by
  unfold startMethod
  split
  · exact startEapTeap_works noTls unfed username
  · exact startEapTls_works noTeap unfed
  · exact leads_reject rfl

theorem handleIdentity_works (username : String) :
    Works engine hmacs settings arrival last [] false (.creator id) (handleIdentity settings username id) := by
  refine configured_bind (locked_bind trivial rfl ⟨_, rfl, rfl⟩ rfl fun found => ?_)
  cases found with
  | false => exact leads_reject rfl
  | true => exact startMethod_works rfl rfl rfl username _

/-- What the owner knows of a conversation in which a Nak may be honoured. -/
def Declines (settings : Settings) (arrival : Arrival) (id : SessionId) (declined : Option EapType)
    (phase : Phase Connection) : Prop :=
  ∃ grip, phase = ⟨some arrival, some grip, none⟩ ∧ grip.id = id ∧ grip.untried = true ∧
    (grip.unfed = true ∨ (declined = some .tls ∧ teapEnabled settings = false))

theorem methodStarted_leads (untried : grip.untried = true) (settled : grip.settled = true) (method : Option EapType)
    (inTurn : method = some .tls → grip.unfed = true ∨ teapEnabled settings = false) :
    Leads engine hmacs settings [(.sessionManager, .read)] (.working ⟨grip.id, false, false, last, none⟩)
      ⟨some arrival, some grip, none⟩ (methodStarted grip.id method) fun stage phase started =>
        stage = .working ⟨grip.id, false, false, last, none⟩ ∧ phase.arrival = some arrival ∧
          (started = false → Declines settings arrival grip.id method phase) := by
  unfold methodStarted
  split
  · refine leads_locked trivial (leads_ask rfl trivial trivial fun found => leads_pure ⟨rfl, ?_⟩)
    cases found with
    | none => exact ⟨rfl, fun impossible => by cases impossible⟩
    | some server =>
      refine ⟨rfl, fun notStarted => ⟨_, rfl, ?_⟩⟩
      have unversioned : server.peerVersion = none := by
        simpa [EapTeapServer.negotiatedVersion] using notStarted
      simp [Grip.meetTeap, untried, settled, unversioned]
  · refine leads_locked trivial (leads_ask rfl trivial trivial fun found => ?_)
    cases found with
    | none => exact leads_pure ⟨rfl, rfl, fun impossible => by cases impossible⟩
    | some server =>
      refine leads_pure ⟨rfl, rfl, fun _ => ⟨_, rfl, ?_⟩⟩
      rcases inTurn rfl with unfed | disabled
      · simp [Grip.meetTls, untried, unfed]
      · simp [Grip.meetTls, untried, disabled]
  · exact leads_pure ⟨rfl, rfl, fun impossible => by cases impossible⟩

theorem declinedMethod_leads :
    Leads engine hmacs settings [] (.working ⟨id, false, false, last, none⟩)
      ⟨some arrival, some (.claimant id identifier), none⟩ (locked .sessionManager .read (declinedMethod id))
      fun stage phase declined =>
        stage = .working ⟨id, false, false, last, none⟩ ∧ phase.arrival = some arrival ∧
          ∀ method, declined = some method → Declines settings arrival id method phase := by
  refine leads_locked trivial (leads_ask rfl trivial trivial fun found => ?_)
  cases found with
  | none => exact leads_pure ⟨rfl, rfl, fun _ impossible => by cases impossible⟩
  | some session =>
    dsimp only
    split
    · exact leads_pure ⟨rfl, rfl, fun _ impossible => by cases impossible⟩
    · rename_i first
      have never : session.attemptCount = 0 := by omega
      have untried : (⟨some arrival, some (.claimant id identifier), none⟩ : Phase Connection).advance engine settings
          _ (.getSession id) (some session) = ⟨some arrival, some { (Grip.claimant id identifier) with
            untried := true, unfed := Grip.outOfTurn settings session }, none⟩ := by
        simp [Phase.advance, Grip.learn, Grip.claimant, never]
      rw [untried]
      refine Leads.bind (@methodStarted_leads _ _ hmacs _ _ _ { (Grip.claimant id identifier) with
        untried := true, unfed := Grip.outOfTurn settings session } rfl rfl session.eapMethod fun proposed => ?_) ?_
      · cases enabled : teapEnabled settings with
        | false => exact .inr rfl
        | true => exact .inl (by simp [Grip.outOfTurn, proposed, enabled])
      · intro stage phase started holds
        refine leads_pure ⟨holds.1, holds.2.1, fun method declined => ?_⟩
        cases started with
        | true => cases declined
        | false =>
          cases declined
          exact holds.2.2 rfl

theorem nextMethod_tls (disabled : teapEnabled settings = false) (listed : Octets) :
    nextMethod settings (some .tls) listed = none := by
  simp only [nextMethod, List.find?_eq_none]
  intro method _
  cases method <;> simp [disabled]

theorem handleNak_works (username : String) (nak : EapPacket) :
    Works engine hmacs settings arrival last [] false (.claimant id identifier) (handleNak settings username id nak) := by
  apply declinedMethod_leads.bind
  intro stage phase declined holds
  obtain ⟨rfl, known, knows⟩ := holds
  cases declined with
  | none => exact leads_reject known
  | some declined =>
    obtain ⟨grip, rfl, same, untried, either⟩ := knows declined rfl
    refine configured_bind ?_
    split
    · exact leads_reject rfl
    · rename_i next chosen
      have unfed : grip.unfed = true := by
        rcases either with unfed | ⟨rfl, disabled⟩
        · exact unfed
        · rw [nextMethod_tls disabled] at chosen
          cases chosen
      subst same
      refine Leads.bind (dropMethodState_leads (fun _ owed => by cases owed.1) fun _ owed => owed.elim) ?_
      intro stage phase _ same
      obtain ⟨rfl, rfl⟩ := same
      have dropped : ((⟨some arrival, some grip, none⟩ : Phase Connection).advance engine settings Unit
          (.tlsRemove [grip.id]) ()).advance engine settings Unit (.teapRemove [grip.id]) () =
          ⟨some arrival, some { grip with noTls := true, noTeap := true }, none⟩ := by
        simp [Phase.advance, Grip.learn]
      rw [dropped]
      refine locked_bind trivial rfl ⟨_, rfl, rfl⟩ ⟨_, rfl, rfl, unfed, untried⟩ fun found => ?_
      cases found with
      | false => exact leads_reject rfl
      | true =>
        exact @startMethod_works _ _ _ _ _ _ { grip with noTls := true, noTeap := true, untried := false } rfl rfl unfed
          username (some next)

def Serves (arrival : Arrival) (response : EapPacket) (grip : Grip Connection) : Prop :=
  sessionIdForState arrival.state = some grip.id ∧ EapPacket.fromBytes arrival.eapData = .ok response ∧
    grip.claimed = some response.identifier

theorem request_works {message : Option String} {packet : UInt8 → EapPacket} (may : mayTake held .sessionManager .write)
    (settled : grip.settled = true)
    (asks : ∀ identifier, (packet identifier).code = .request ∧ (packet identifier).identifier = identifier) :
    Works engine hmacs settings arrival last held fetched grip
      (do let identifier ← nextId grip.id response; return challenge grip.id message (packet identifier)) := by
  have drawing : Leads engine hmacs settings held (.working ⟨grip.id, fetched, false, last, none⟩)
      ⟨some arrival, some grip, none⟩ (nextId grip.id response) fun stage phase identifier =>
        phase.arrival = some arrival ∧ ∃ drawn, stage = .working ⟨grip.id, fetched, false, last, some drawn⟩ ∧
          identifier = drawn.getD (response.identifier + 1) := by
    refine locked_bind may (by simp [guarded]) ⟨_, rfl, rfl, rfl⟩ ⟨grip, rfl, rfl, settled⟩ fun drawn =>
      leads_pure ⟨rfl, drawn, ?_, rfl⟩
    cases drawn <;> rfl
  apply drawing.bind
  intro stage phase identifier drew
  obtain ⟨known, drawn, rfl, rfl⟩ := drew
  refine leads_pure (replies_challenge known (asks _).1 fun identifier same => ?_)
  subst same
  exact (asks _).2

/-! A method that has found its TLS state goes on with it under the lock. -/

section Tls

variable {server : EapTlsServer Connection}

theorem mayDraw : mayTake [(.tlsSessions, .write)] .sessionManager .write := trivial

theorem sendTlsFragment_works (noTeap : grip.noTeap = true) (sent : server.commitmentSent = true → grip.vouched = true)
    (touched : server.untouched = false ∨ grip.unfed = true) :
    Works engine hmacs settings arrival last [(.tlsSessions, .write)] true grip (sendTlsFragment grip.id response server) := by
  refine leads_ask rfl ⟨_, rfl, rfl⟩ ⟨grip, rfl, rfl, noTeap, sent⟩ fun _ => ?_
  split
  · exact leads_reject rfl
  · refine @request_works _ _ _ _ _ _ _ _ (grip.holdTls server.nextOutgoingFragment.2) _ _ _ mayDraw ?_
      fun identifier => ⟨rfl, rfl⟩
    rcases touched with touched | unfed
    · simp [Grip.holdTls, touched]
    · simp [Grip.holdTls, unfed]

theorem finishEapTlsSuccess_works (noTeap : grip.noTeap = true) (vouched : grip.vouched = true)
    (serves : Serves arrival response grip) :
    Works engine hmacs settings arrival last [(.tlsSessions, .write)] true grip
      (finishEapTlsSuccess engine grip.id server response.identifier) := by
  have extracted := extractKeys_spec engine server
  refine leads_ask rfl ⟨_, rfl, rfl⟩ ⟨grip, rfl, rfl, noTeap, fun _ => vouched⟩ fun _ => ?_
  split
  · exact leads_reject rfl
  · rename_i succeeded
    obtain ⟨key, keyed⟩ := extracted.2 succeeded
    refine leads_ask rfl trivial ⟨_, rfl, rfl, trivial⟩ fun _ => ?_
    refine locked_bind trivial rfl ⟨_, rfl, rfl⟩ trivial fun _ => ?_
    split
    · rename_i attributes msk _ given
      refine leads_pure ⟨answers_final rfl, rfl, fun _ _ accepted => ?_⟩
      cases accepted
      obtain ⟨named, parsed, taken⟩ := serves
      have ⟨_, _, _, _, _, _, stored⟩ := keyed
      cases Option.some.inj (stored.symm.trans given)
      exact ⟨_, rfl, named, ⟨response, parsed, taken⟩, .inl ⟨vouched, _, _, rfl, keyed, rfl⟩⟩
    · exact leads_reject rfl

theorem sendCommitment_works (noTeap : grip.noTeap = true) (vouched : grip.vouched = true)
    (touched : server.untouched = false) :
    Works engine hmacs settings arrival last [(.tlsSessions, .write)] true grip
      (sendCommitment engine settings grip.id response server) := by
  have kept : ((writeCommitmentRecord engine : Method _ Empty _ _).run server).state.context =
      server.context := writeCommitmentRecord_keeps engine server
  refine leads_ask rfl ⟨_, rfl, rfl⟩ ⟨grip, rfl, rfl, noTeap, fun _ => vouched⟩ fun _ => ?_
  split
  · exact leads_reject rfl
  · refine @sendTlsFragment_works _ _ _ _ _ _ (grip.holdTls _) _ _ noTeap (fun _ => vouched) (.inl ?_)
    rw [queueOutgoingTls_untouched, ← touched]
    simp only [untouched, notBegun, kept]

theorem concludeHandshake_works (noTeap : grip.noTeap = true) (touched : server.untouched = false)
    (serves : Serves arrival response grip) :
    Works engine hmacs settings arrival last [(.tlsSessions, .write)] true grip
      (concludeHandshake engine settings arrival.username grip.id response server) := by
  refine leads_ask rfl trivial ⟨grip, rfl, rfl, arrival, rfl, rfl⟩ fun _ => ?_
  split
  · exact leads_reject rfl
  · rename_i verified
    have vouched : (grip.examine engine arrival.username server).vouched = true := by
      simp only [Bool.not_eq_true', Bool.not_eq_false] at verified
      simp [Grip.examine, verified]
    split
    · exact @sendCommitment_works _ _ _ _ _ _ (grip.examine engine _ server) _ _ noTeap vouched touched
    · exact @finishEapTlsSuccess_works _ _ _ _ _ _ (grip.examine engine _ server) _ _ noTeap vouched serves

theorem feedTls_works (noTeap : grip.noTeap = true) (sent : server.commitmentSent = true → grip.vouched = true)
    (serves : Serves arrival response grip) (packet : EapTlsPacket) :
    Works engine hmacs settings arrival last [(.tlsSessions, .write)] true grip
      (feedTls engine settings arrival.username grip.id response packet server) := by
  obtain ⟨commitment, traced⟩ := processClientMessage_touched engine server packet
  have still : ((processClientMessage engine packet : Method _ Empty _ _).run
      server).state.commitmentSent = true → grip.vouched = true :=
    fun committed => sent (commitment.symm.trans committed)
  refine leads_ask rfl trivial ⟨grip, rfl, rfl, trivial⟩ fun _ => ?_
  refine leads_ask rfl ⟨_, rfl, rfl⟩ ⟨grip.feed, rfl, rfl, noTeap, still⟩ fun _ => ?_
  split
  · exact leads_reject rfl
  · rename_i tlsData processed
    have touched := traced (by rw [processed]; rfl)
    refine @sendTlsFragment_works _ _ _ _ _ _ (grip.feed.holdTls _) _ _ noTeap still (.inl ?_)
    simpa using touched
  · rename_i processed
    have touched := traced (by rw [processed]; rfl)
    split
    · refine @request_works _ _ _ _ _ _ _ _ (grip.feed.holdTls _) _ _ _ mayDraw ?_ fun identifier => ⟨rfl, rfl⟩
      simp [Grip.holdTls, touched]
    · split
      · exact leads_reject rfl
      · exact @concludeHandshake_works _ _ _ _ _ _ (grip.feed.holdTls _) _ _ noTeap touched serves

theorem continueEapTls_works (settled : grip.settled = true) (serves : Serves arrival response grip) :
    Works engine hmacs settings arrival last [] false grip
      (continueEapTls engine settings arrival.username grip.id response) := by
  refine leads_locked trivial (Leads.mono ?_ fun _ _ _ replies => Replies.unfetched replies)
  refine leads_ask rfl trivial trivial fun found => ?_
  cases found with
  | none => exact leads_reject rfl
  | some server =>
    have fetched : (Stage.working ⟨grip.id, false, false, last, none⟩).advance _ (.tlsGet grip.id) (some server) =
        .working ⟨grip.id, true, false, last, none⟩ := by
      simp [Stage.advance]
    have known : (⟨some arrival, some grip, none⟩ : Phase Connection).advance engine settings _ (.tlsGet grip.id)
        (some server) = ⟨some arrival, some (grip.meetTls server), none⟩ := by
      simp [Phase.advance, Grip.learn]
    have sent : server.commitmentSent = true → (grip.meetTls server).vouched = true := by
      intro sent
      simp [Grip.meetTls, sent]
    rw [fetched, known]
    dsimp only
    split
    · have fresh : server.untouched = false ∨ (grip.meetTls server).unfed = true := by
        cases untouched : server.untouched with
        | false => exact .inl rfl
        | true => exact .inr (by simp [Grip.meetTls, settled, untouched])
      exact @sendTlsFragment_works _ _ _ _ _ _ (grip.meetTls server) _ _ rfl sent fresh
    · split
      · rename_i finished
        exact @finishEapTlsSuccess_works _ _ _ _ _ _ (grip.meetTls server) _ _ rfl
          (sent (Bool.and_eq_true_iff.mp finished).1) serves
      · split
        · exact leads_reject rfl
        · exact @feedTls_works _ _ _ _ _ _ (grip.meetTls server) _ _ rfl sent serves _

end Tls

/-! TEAP state is put back while the lock is held. -/

section Teap

variable {server : TeapServer Connection}

theorem mayNumber : mayTake [(.teapSessions, .write)] .sessionManager .write := trivial

theorem sendTeapFragment_works (noTls : grip.noTls = true)
    (touched : server.peerVersion.isSome = true ∨ grip.unfed = true) :
    Works engine hmacs settings arrival last [(.teapSessions, .write)] false grip
      (sendTeapFragment grip.id response server) := by
  refine leads_ask rfl ⟨_, rfl, rfl⟩ ⟨grip, rfl, rfl, noTls⟩ fun _ => ?_
  split
  · exact leads_reject rfl
  · refine @request_works _ _ _ _ _ _ _ _ (grip.holdTeap server.nextOutgoingFragment.2) _ _ _ mayNumber ?_
      fun identifier => ⟨rfl, rfl⟩
    rcases touched with touched | unfed
    · simp [Grip.holdTeap, EapTeapServer.nextOutgoingFragment, touched]
    · simp [Grip.holdTeap, unfed]

theorem finishTeap_works (serves : Serves arrival response grip) :
    Works engine hmacs settings arrival last [(.teapSessions, .write)] false grip
      (finishTeap hmacs grip.id response server) := by
  refine leads_ask rfl trivial ⟨grip, rfl, rfl, trivial⟩ fun _ => ?_
  split
  · exact leads_reject rfl
  · rename_i msk given
    refine locked_bind trivial rfl ⟨_, rfl, rfl⟩ trivial fun _ => ?_
    split
    · refine leads_pure ⟨answers_final rfl, rfl, fun _ _ accepted => ?_⟩
      cases accepted
      obtain ⟨named, parsed, taken⟩ := serves
      exact ⟨_, rfl, named, ⟨response, parsed, taken⟩, .inr ⟨_, _, rfl, given, rfl⟩⟩
    · exact leads_reject rfl

theorem feedTeap_works (noTls : grip.noTls = true) (serves : Serves arrival response grip) (packet : TeapPacket) :
    Works engine hmacs settings arrival last [(.teapSessions, .write)] false grip
      (feedTeap engine hmacs settings grip.id response packet server) := by
  refine leads_ask rfl trivial trivial fun random => ?_
  have traced := EapTeapServer.processClientMessage_versioned engine hmacs basicPasswordAuth server ⟨packet, random⟩
  refine leads_ask rfl trivial ⟨grip, rfl, rfl, trivial⟩ fun _ => ?_
  refine leads_ask rfl ⟨_, rfl, rfl⟩ ⟨grip.feed, rfl, rfl, noTls⟩ fun _ => ?_
  split
  · exact leads_reject rfl
  · rename_i tlsData processed
    have versioned := traced (by rw [processed]; rfl)
    exact @sendTeapFragment_works _ _ _ _ _ _ (grip.feed.holdTeap _) _ _ noTls (.inl versioned)
  · rename_i processed
    have versioned := traced (by rw [processed]; rfl)
    split
    · refine @request_works _ _ _ _ _ _ _ _ (grip.feed.holdTeap _) _ _ _ mayNumber ?_ fun identifier => ⟨rfl, rfl⟩
      simp [Grip.holdTeap, versioned]
    · split
      · exact leads_reject rfl
      · exact @finishTeap_works _ _ _ _ _ _ (grip.feed.holdTeap _) _ _ serves

theorem continueEapTeap_works (settled : grip.settled = true) (serves : Serves arrival response grip) :
    Works engine hmacs settings arrival last [] false grip (continueEapTeap engine hmacs settings grip.id response) := by
  refine leads_locked trivial (leads_ask rfl trivial trivial fun found => ?_)
  cases found with
  | none => exact leads_reject rfl
  | some server =>
    have known : (⟨some arrival, some grip, none⟩ : Phase Connection).advance engine settings _ (.teapGet grip.id)
        (some server) = ⟨some arrival, some (grip.meetTeap server), none⟩ := by
      simp [Phase.advance, Grip.learn]
    rw [known]
    dsimp only
    split
    · exact leads_reject rfl
    · split
      · split
        · exact leads_reject rfl
        · have fresh : server.peerVersion.isSome = true ∨ (grip.meetTeap server).unfed = true := by
            cases version : server.peerVersion with
            | some version => exact .inl rfl
            | none => exact .inr (by simp [Grip.meetTeap, settled, version])
          exact @sendTeapFragment_works _ _ _ _ _ _ (grip.meetTeap server) _ _ rfl fresh
      · exact @feedTeap_works _ _ _ _ _ _ (grip.meetTeap server) _ _ rfl serves _

end Teap

theorem continueMethod_works (serves : Serves arrival response (.claimant id response.identifier : Grip Connection)) :
    Works engine hmacs settings arrival last [] false (.claimant id response.identifier)
      (continueMethod engine hmacs settings arrival.username id response) := by
  unfold continueMethod
  split
  · exact @continueEapTls_works _ _ _ _ _ _ (.claimant id response.identifier) _ rfl serves
  · exact @continueEapTeap_works _ _ _ _ _ _ (.claimant id response.identifier) _ rfl serves
  · exact handleNak_works _ _
  · exact leads_reject rfl

theorem begin_leads :
    Leads engine hmacs settings [] (.working ⟨id, false, false, last, none⟩) ⟨some arrival, some (.creator id), none⟩
      (do let result ← handleIdentity settings arrival.username id; finish id result) (Settled engine hmacs arrival last) :=
  Leads.bind (handleIdentity_works arrival.username) fun _ _ _ replies => finish_leads replies

theorem beginConversation_leads :
    Leads engine hmacs settings [] (.free .unmade [] []) ⟨some arrival, none, none⟩ (beginConversation settings arrival)
      (Settled engine hmacs arrival none) := by
  apply startSession_leads.bind
  intro stage phase started came
  rcases came with ⟨rfl, ⟨room, rfl⟩, known⟩ | ⟨id, rfl, rfl, rfl⟩
  · exact leads_pure (settled_free known rfl (by simp))
  · exact begin_leads

theorem beginAfterIdentity_leads (response : EapPacket) :
    Leads engine hmacs settings [] (.free .unmade [] []) ⟨some arrival, none, none⟩
      (beginAfterIdentity settings arrival response) (Settled engine hmacs arrival (some response.identifier)) := by
  apply startSession_leads.bind
  intro stage phase started came
  rcases came with ⟨rfl, ⟨room, rfl⟩, known⟩ | ⟨id, rfl, rfl, rfl⟩
  · exact leads_pure (settled_free known rfl (by simp))
  · exact locked_bind trivial rfl ⟨_, rfl, rfl, rfl, rfl⟩ trivial fun _ => begin_leads

theorem continueConversation_leads (parsed : EapPacket.fromBytes arrival.eapData = .ok response) :
    Leads engine hmacs settings [] (.free .never [] []) ⟨some arrival, none, none⟩
      (continueConversation engine hmacs settings arrival response)
      (Settled engine hmacs arrival (some response.identifier)) := by
  unfold continueConversation
  split
  · exact leads_pure (settled_free rfl rfl (by simp))
  · rename_i id named
    refine locked_bind trivial rfl ⟨.never, rfl⟩ ⟨rfl, rfl⟩ fun claim => ?_
    cases claim with
    | claimed =>
      apply Leads.bind (continueMethod_works ⟨named, parsed, rfl⟩)
      exact fun _ _ _ replies => finish_leads replies
    | unknownSession | bindingMismatch | identifierMismatch => exact leads_pure (settled_free rfl rfl (by simp))

end Walk

end EapAuthHandler

namespace Arrival

/-- The Response the request carries. -/
def response (arrival : Arrival) : Option EapPacket :=
  if arrival.eapData.isEmpty then none else (EapPacket.fromBytes arrival.eapData).toOption

/-- Whether the request starts a conversation. -/
def starts (arrival : Arrival) : Bool :=
  arrival.eapData.isEmpty ||
    arrival.response.any fun packet => packet.code = .response && packet.eapType = some .identity

end Arrival

namespace EapAuthHandler

section Calls

variable {engine : TlsEngine Connection} {hmacs : Hmacs} {settings : Settings}

/-- Only a call that starts a conversation creates a session. -/
def roomFor (arrival : Arrival) : Room :=
  if arrival.starts then .unmade else .never

def Task.begins : Task → Stage
  | .authenticate arrival => .free (roomFor arrival) [] []
  | _ => .free .never [] []

theorem authenticateEap_leads (arrival : Arrival) :
    Leads engine hmacs settings [] (Task.begins (.authenticate arrival)) ⟨some arrival, none, none⟩
      (authenticateEap engine hmacs settings arrival)
      (Settled engine hmacs arrival (arrival.response.map EapPacket.identifier)) := by
  refine leads_ask rfl trivial trivial fun now => ?_
  apply (reapIdleAt_leads now).bind
  intro after reached _ same
  obtain ⟨rfl, rfl⟩ := same
  split
  · rename_i empty
    have room : roomFor arrival = .unmade := if_pos (by rw [Arrival.starts, empty, Bool.true_or])
    rw [room, Arrival.response, if_pos empty]
    exact beginConversation_leads
  · rename_i present
    cases parsed : EapPacket.fromBytes arrival.eapData with
    | error reason => exact leads_pure (settled_free rfl rfl (by simp))
    | ok packet =>
      have response : arrival.response = some packet := by
        rw [Arrival.response, if_neg present, parsed]
        rfl
      rw [response]
      dsimp only
      split
      · exact leads_pure (settled_free rfl rfl (by simp))
      · rename_i answers
        split
        · rename_i identity
          have room : roomFor arrival = .unmade := if_pos (by simp_all [Arrival.starts])
          rw [room]
          exact beginAfterIdentity_leads packet
        · rename_i other
          have room : roomFor arrival = .never := if_neg (by simp_all [Arrival.starts])
          rw [room]
          exact continueConversation_leads parsed

theorem Concluded.rests {last : Option UInt8} {stage : Stage} {result : AuthResult} (concluded : Concluded last stage result) :
    stage.rests := by
  rcases concluded with ⟨room, rfl, _⟩ | ⟨work, _, _, _, rfl, _, _, challenged⟩
  · exact ⟨rfl, rfl⟩
  · exact challenged.settled

theorem handlerTasks_lead (task : Task) :
    Leads engine hmacs settings [] (Task.begins task) ⟨task.arrival, none, none⟩
      ((handlerTasks engine hmacs settings).start task) fun stage _ _ => stage.rests := by
  cases task with
  | authenticate arrival =>
    apply (authenticateEap_leads arrival).bind
    intro stage phase result settled
    refine leads_ask rfl trivial ?_ fun _ => leads_pure settled.1.rests
    cases result with
    | accept attributes msk => exact ⟨settled.2.1, settled.2.2 attributes msk rfl⟩
    | _ => trivial
  | reap now =>
    apply (reapAt_leads now).bind
    exact fun stage phase _ same => leads_pure (by rw [same.1]; exact ⟨rfl, rfl⟩)
  | reapIdle now =>
    apply (reapIdleAt_leads now).bind
    exact fun stage phase _ same => leads_pure (by rw [same.1]; exact ⟨rfl, rfl⟩)

theorem handlerTasks_conform (task : Task) :
    (courses Connection).Conforms (Task.begins task, []) ((handlerTasks engine hmacs settings).start task) := by
  apply Follows.mono (Follows.left (handlerTasks_lead task))
  intro after outcome ended
  obtain ⟨whole, rfl, returned, rests⟩ := ended
  cases outcome with
  | error impossible => exact impossible.elim
  | ok value => exact ⟨rests value rfl, returned⟩

end Calls

end EapAuthHandler

end UsgRadius.Eap
