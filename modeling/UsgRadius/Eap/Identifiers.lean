import UsgRadius.Eap.MethodState
import UsgRadius.Server.EapCarriage

namespace UsgRadius.Eap.EapAuthHandler

open Data Program Protocol

/-! The Identifiers of the Requests of a conversation, over calls that follow one
another. -/

variable {Connection : Type} {packet : EapPacket} {attributes : List Attribute} {state : Octets}
  {answers : List AuthResult}

/-! ## Calls and what they were answered -/

/-- The EAP packet that attributes carry. -/
def eapMessage (attributes : List Attribute) : Octets :=
  ((attributes.filter fun attr => attr.attrType = AttributeType.eapMessage.asU8).map Attribute.value).flatten

def requestIdentifier (attributes : List Attribute) : Option UInt8 :=
  (eapMessage attributes)[1]?

/-- The Identifier of the last Request that went out in the conversation with the
State; the latest answer comes first. -/
def lastRequest (state : Octets) : List AuthResult → Option UInt8
  | [] => none
  | .challenge _ own attributes :: earlier =>
    if own = state then requestIdentifier attributes else lastRequest state earlier
  | _ :: earlier => lastRequest state earlier

/-- Calls of `authenticate_eap` one after another, and their answers. -/
inductive Calls (engine : TlsEngine Connection) (hmacs : Hmacs) (settings : Settings) (start : World Connection) :
    List AuthResult → World Connection → Prop
  | none : Calls engine hmacs settings start [] start
  | call {answers : List AuthResult} {before after : World Connection} {arrival : Arrival} {result : AuthResult}
      (calls : Calls engine hmacs settings start answers before)
      (run : Runs Performs (authenticateEap engine hmacs settings arrival) before (.ok result) after) :
      Calls engine hmacs settings start (result :: answers) after

theorem eapMessage_eq (made : eapToRadiusAttributes packet = .ok attributes) :
    eapMessage attributes = packet.toBytes := by
  rw [Server.eapToRadiusAttributes_eq] at made
  cases made
  have every : ∀ pieces : List Octets, (((pieces.map fun chunk => (⟨AttributeType.eapMessage.asU8, chunk⟩ : Attribute)).filter
      fun attr => attr.attrType = AttributeType.eapMessage.asU8).map Attribute.value) = pieces := by
    intro pieces
    induction pieces with
    | nil => rfl
    | cons piece rest ih => simpa using ih
  rw [eapMessage, Server.eapAttributes, every]
  exact Server.chunksFrom_flatten (by decide) (Nat.le_refl _)

theorem lastRequest_answered {identifier : UInt8} (asked : lastRequest state answers = some identifier) :
    ∃ message attributes, .challenge message state attributes ∈ answers := by
  induction answers with
  | nil => cases asked
  | cons answer earlier ih =>
    have later : lastRequest state earlier = some identifier →
        ∃ message attributes, .challenge message state attributes ∈ answer :: earlier := by
      grind
    cases answer with
    | challenge message own attributes =>
      rw [lastRequest] at asked
      split at asked
      · rename_i same
        subst same
        exact ⟨message, attributes, List.mem_cons_self⟩
      · exact later asked
    | _ => exact later asked

/-- The State of the session is drawn by this call. -/
def Fresh (before world : World Connection) (id : SessionId) : Prop :=
  ∃ state, .drawn state ∈ world.journal ∧ .drawn state ∉ before.journal ∧ id = Hex.encode state.octets

/-- The Response answers the outstanding Request of the session. -/
def Answered (before : World Connection) (work : Work) : Prop :=
  ∃ session identifier, before.manager.sessions.lookup work.id = some session ∧
    session.outstandingIdentifier = some identifier ∧ work.last = some identifier

/-- The next Identifier follows that of the Response; once it is drawn, it is
outstanding. -/
def InStep (work : Work) (session : EapSession) : Prop :=
  match work.drawn with
  | none => ∀ identifier, work.last = some identifier → session.currentIdentifier = identifier + 1
  | some none => False
  | some (some drawn) => session.outstandingIdentifier = some drawn ∧ session.currentIdentifier = drawn + 1 ∧
      ∀ identifier, work.last = some identifier → drawn = identifier + 1

def Tracks (before world : World Connection) : Stage → Prop
  | .free room _ _ => world.manager.Shrinks before.manager ∧ ∀ id, room = .ready id → Fresh before world id
  | .working work =>
    (∀ id session, id ≠ work.id → world.manager.sessions.lookup id = some session →
      before.manager.sessions.lookup id = some session) ∧
    (Fresh before world work.id ∨ Answered before work) ∧
    ∃ session, world.manager.sessions.lookup work.id = some session ∧ InStep work session

def Numbered (manager : EapSessionManager) : Prop :=
  ∀ id session, manager.sessions.lookup id = some session →
    ∃ identifier, session.outstandingIdentifier = some identifier ∧ session.currentIdentifier = identifier + 1

section Steps

variable {before world after : World Connection} {stage : Stage} {Answer : Type} {effect : Effect Connection Answer}
  {answer : Answer} {id : SessionId} {work : Work} {found : Bool}

theorem Fresh.mono (fresh : Fresh before world id) (grows : world.journal <:+ after.journal) :
    Fresh before after id := by
  obtain ⟨state, seen, new, named⟩ := fresh
  exact ⟨state, grows.mem seen, new, named⟩

theorem Tracks.frame (tracks : Tracks before world stage) (same : after.manager = world.manager)
    (grows : world.journal <:+ after.journal) : Tracks before after stage := by
  cases stage with
  | free room tls teap => exact ⟨same ▸ tracks.1, fun id ready => (tracks.2 id ready).mono grows⟩
  | working work =>
    obtain ⟨others, came, session, found, follows⟩ := tracks
    rw [← same] at others found
    exact ⟨others, came.imp_left fun fresh => fresh.mono grows, session, found, follows⟩

theorem apply_identifiers {change : SessionChange} (other : ∀ identifier, change ≠ .seed identifier) (now : Nat)
    (session : EapSession) :
    (change.apply now session).currentIdentifier = session.currentIdentifier ∧
      (change.apply now session).outstandingIdentifier = session.outstandingIdentifier := by
  have moved : ∀ state (session : EapSession), (session.transition state now).currentIdentifier = session.currentIdentifier ∧
      (session.transition state now).outstandingIdentifier = session.outstandingIdentifier := by
    intro state session
    unfold EapSession.transition
    split <;> exact ⟨rfl, rfl⟩
  cases change with
  | touch => exact ⟨rfl, rfl⟩
  | seed identifier => exact absurd rfl (other identifier)
  | identify username method =>
    exact ⟨((moved _ _).1.trans (moved _ _).1), (moved _ _).2.trans (moved _ _).2⟩
  | renegotiate method => exact ⟨rfl, rfl⟩
  | succeed => exact moved _ _

theorem Tracks.change {next : Work} {changed : EapSession} {events : List (Event Connection)}
    (tracks : Tracks before world (.working work)) (same : next.id = work.id)
    (sets : Sets work.id changed events world after) (came : Answered before work → Answered before next)
    (follows : ∀ session, world.manager.sessions.lookup work.id = some session → InStep work session → InStep next changed) :
    Tracks before after (.working next) := by
  obtain ⟨others, origin, session, found, instep⟩ := tracks
  have grows : world.journal <:+ after.journal := sets.journal ▸ List.suffix_append _ _
  refine ⟨fun id session different present => ?_, ?_, changed, ?_, follows session found instep⟩
  · rw [same] at different
    exact others id session different (sets.others id different ▸ present)
  · rw [same]
    exact origin.imp (fun fresh => fresh.mono grows) came
  · rw [same]
    exact sets.own

theorem tracks_kept {change : SessionChange} (other : ∀ identifier, change ≠ .seed identifier)
    (performed : Performs Bool (.updateSession work.id change) world found after)
    (tracks : Tracks before world (.working work)) : Tracks before after (.working work) := by
  rcases updateSession_cases performed with ⟨_, _, rfl⟩ | ⟨now, session, _, found, sets⟩
  · exact tracks
  · refine tracks.change rfl sets (fun answered => answered) fun session present follows => ?_
    cases found.symm.trans present
    obtain ⟨current, outstanding⟩ := apply_identifiers other now
      (EapSession.updateActivity now { session with lruSeq := world.manager.nextSeq })
    unfold InStep at follows ⊢
    rw [current, outstanding]
    exact follows

theorem tracks_update {change : SessionChange}
    (permitted : stage.permits Bool (.updateSession id change : Effect Connection Bool))
    (performed : Performs Bool (.updateSession id change) world found after) (tracks : Tracks before world stage) :
    Tracks before after (stage.advance Bool (.updateSession id change : Effect Connection Bool) found) := by
  cases change with
  | seed identifier =>
    obtain ⟨work, rfl, rfl, undrawn, unheard⟩ := permitted
    obtain ⟨session, present, _⟩ := tracks.2.2
    rcases updateSession_cases performed with ⟨_, absent, _⟩ | ⟨now, _, _, _, sets⟩
    · cases present.symm.trans absent
    · refine tracks.change rfl sets (fun answered => ?_) fun session _ _ => ?_
      · obtain ⟨_, _, _, _, heard⟩ := answered
        rw [unheard] at heard
        cases heard
      · simp only [InStep, undrawn]
        intro other same
        cases same
        rfl
  | _ =>
    obtain ⟨work, rfl, rfl⟩ := permitted
    exact tracks_kept (fun _ impossible => by cases impossible) performed tracks

theorem tracks_next {drawn : Option UInt8} (permitted : stage.permits _ (.nextIdentifier id : Effect Connection _))
    (performed : Performs _ (.nextIdentifier id) world drawn after) (tracks : Tracks before world stage) :
    Tracks before after (stage.advance _ (.nextIdentifier id : Effect Connection _) drawn) := by
  obtain ⟨work, rfl, rfl, undrawn⟩ := permitted
  obtain ⟨session, present, _⟩ := tracks.2.2
  rcases nextIdentifier_cases performed with ⟨_, absent, _⟩ | ⟨now, session, rfl, found, sets⟩
  · cases present.symm.trans absent
  · refine tracks.change rfl sets (fun answered => answered) fun other there follows => ?_
    cases found.symm.trans there
    simp only [InStep, undrawn] at follows
    exact ⟨rfl, rfl, follows⟩

theorem removeSession_lookup (manager : EapSessionManager) (id : SessionId) :
    (manager.removeSession id).sessions.lookup id = none := by
  unfold EapSessionManager.removeSession
  split
  · assumption
  · exact AList.lookup_erase _ _

theorem tracks_advance (numbered : Numbered before.manager) (grown : before.journal <:+ world.journal)
    (permitted : stage.permits Answer effect) (performed : Performs Answer effect world answer after)
    (tracks : Tracks before world stage) : Tracks before after (stage.advance Answer effect answer) := by
  have grows := (unchanged performed).journal
  have same : Effect.part Answer effect ≠ .sessions → after.manager = world.manager := (unchanged performed).manager
  cases effect with
  | evictIdleAt now =>
    obtain ⟨room, rfl⟩ := permitted
    obtain ⟨rfl, rfl⟩ := performed
    refine ⟨fun id session found => tracks.1 id session ?_, fun id ready => (tracks.2 id ready).mono grows⟩
    exact (world.manager.evictIdleAt_evicts now).shrinks id session found
  | evictAt now =>
    obtain ⟨room, rfl⟩ := permitted
    obtain ⟨rfl, rfl⟩ := performed
    refine ⟨fun id session found => tracks.1 id session ?_, fun id ready => ?_⟩
    · exact (world.manager.evictAt_evicts now).shrinks id session found
    · cases room <;> cases ready
  | createSession id origin =>
    cases permitted
    obtain ⟨session, sets, _⟩ := createSession_sets performed
    refine ⟨fun other session different found => ?_, .inl ((tracks.2 id rfl).mono grows), session, sets.own, ?_⟩
    · exact tracks.1 other session (sets.others other different ▸ found)
    · exact fun identifier impossible => by cases impossible
  | claimResponse id arrival identifier =>
    obtain ⟨room, rfl⟩ := permitted
    rcases claimResponse_cases performed with ⟨refused, rfl⟩ | ⟨session, rfl, found, _, outstanding, sets⟩
    · cases answer with
      | claimed => exact absurd rfl refused
      | _ => exact tracks
    · have old := tracks.1 id session found
      refine ⟨fun other session different present => ?_, .inr ⟨session, identifier, old, outstanding, rfl⟩, _, sets.own,
        fun last same => ?_⟩
      · exact tracks.1 other session (sets.others other different ▸ present)
      · cases same
        obtain ⟨last, awaits, follows⟩ := numbered id session old
        rw [outstanding] at awaits
        cases awaits
        exact follows
  | removeSession id =>
    obtain ⟨work, rfl, rfl⟩ := permitted
    cases performed
    refine ⟨fun other session found => ?_, fun id impossible => by cases impossible⟩
    by_cases own : other = work.id
    · rw [own, removeSession_lookup] at found
      cases found
    · exact tracks.1 other session own (world.manager.removeSession_shrinks work.id other session found)
  | updateSession id change => exact tracks_update permitted performed tracks
  | nextIdentifier id => exact tracks_next permitted performed tracks
  | drawState =>
    have kept := tracks.frame (same fun impossible => by cases impossible) grows
    cases stage with
    | working work => cases answer <;> exact kept
    | free room tls teap =>
      cases answer with
      | none => exact kept
      | some state =>
        obtain ⟨offered, drawn⟩ := performed
        rcases World.drawState_cases drawn with ⟨impossible, _⟩ | ⟨chosen, is, unseen, rfl⟩
        · cases impossible
        · cases is
          refine ⟨kept.1, fun id ready => ?_⟩
          cases room with
          | made =>
            cases ready
            exact ⟨state, List.mem_cons_self, fun seen => unseen (grown.mem seen), rfl⟩
          | ready own => exact kept.2 id ready
          | _ => cases ready
  | release lock mode =>
    have kept := tracks.frame (same fun impossible => by cases impossible) grows
    cases lock <;> cases stage <;> exact kept
  | tlsGet id =>
    have kept := tracks.frame (same fun impossible => by cases impossible) grows
    cases stage <;> cases answer <;> exact kept
  | _ =>
    have kept := tracks.frame (same fun impossible => by cases impossible) grows
    cases stage <;> exact kept

end Steps

variable {world : World Connection}

section Calls

variable {engine : TlsEngine Connection} {hmacs : Hmacs} {settings : Settings} {before after : World Connection}
  {answers : List AuthResult} {arrival : Arrival} {result : AuthResult}

theorem call_tracks (numbered : Numbered before.manager)
    (run : Runs Performs (authenticateEap engine hmacs settings arrival) before (.ok result) after) :
    before.journal <:+ after.journal ∧
      ∃ stage, Tracks before after stage ∧ Concluded (arrival.response.map EapPacket.identifier) stage result := by
  have begun : Tracks before before (Task.begins (.authenticate arrival)) := by
    refine ⟨fun _ _ found => found, fun id ready => ?_⟩
    unfold roomFor at ready
    split at ready <;> cases ready
  have keeps : ∀ (state : Stage × Held Lock) Answer (effect : Effect Connection Answer) world answer next,
      (courses Connection).permits state Answer effect → Performs Answer effect world answer next →
      before.journal <:+ world.journal ∧ Tracks before world state.1 →
      before.journal <:+ next.journal ∧ Tracks before next ((courses Connection).advance state Answer effect answer).1 := by
    intro state Answer effect world answer next permitted performed related
    exact ⟨related.1.trans (unchanged performed).journal,
      tracks_advance numbered related.1 permitted.1 performed related.2⟩
  obtain ⟨_, ⟨grows, tracks⟩, ⟨⟨stage, _⟩, _⟩, rfl, _, settled⟩ :=
    Follows.tracks (Follows.left (authenticateEap_leads arrival)) keeps run ⟨List.suffix_rfl, begun⟩
  exact ⟨grows, stage, tracks, (settled result rfl).1⟩

/-- What holds between calls: every session awaits the Response to the last
Request of its conversation, and every State that went out was drawn. -/
structure Steady (answers : List AuthResult) (world : World Connection) : Prop where
  numbered : ∀ id session, world.manager.sessions.lookup id = some session →
    ∃ identifier, session.outstandingIdentifier = some identifier ∧ session.currentIdentifier = identifier + 1 ∧
      lastRequest (stateFor id) answers = some identifier
  named : ∀ id session, world.manager.sessions.lookup id = some session →
    ∃ state : Block stateLength, .drawn state ∈ world.journal ∧ id = Hex.encode state.octets
  drawn : ∀ message state attributes, .challenge message state attributes ∈ answers →
    ∃ block : Block stateLength, .drawn block ∈ world.journal ∧ state = block.octets

theorem Steady.awaiting (steady : Steady answers world) : Numbered world.manager := by
  intro id session found
  obtain ⟨identifier, outstanding, current, _⟩ := steady.numbered id session found
  exact ⟨identifier, outstanding, current⟩

theorem succ_ne (identifier : UInt8) : identifier + 1 ≠ identifier := by
  grind

theorem stateFor_encode (state : Octets) : stateFor (Hex.encode state) = state :=
  Hex.octets_encode state

structure Issued (answers : List AuthResult) (after : World Connection) (work : Work) (state : Octets)
    (attributes : List Attribute) (session : EapSession) (packet : EapPacket) : Prop where
  live : after.manager.sessions.lookup work.id = some session
  named : ∃ block : Block stateLength, .drawn block ∈ after.journal ∧ work.id = Hex.encode block.octets ∧
    state = block.octets
  request : packet.code = .request
  carried : eapToRadiusAttributes packet = .ok attributes
  outstanding : session.outstandingIdentifier = some packet.identifier
  next : session.currentIdentifier = packet.identifier + 1
  follows : ∀ identifier, work.last = some identifier → packet.identifier = identifier + 1
  differs : lastRequest state answers ≠ some packet.identifier

theorem challenged_issued {work : Work} (steady : Steady answers before) (grows : before.journal <:+ after.journal)
    (tracks : Tracks before after (.working work)) (challenged : Challenged work state attributes) :
    ∃ session packet, Issued answers after work state attributes session packet := by
  obtain ⟨_, came, session, found, follows⟩ := tracks
  obtain ⟨packet, drawn, asks, made, drew, numbers⟩ := challenged.carries
  rw [InStep, drew] at follows
  cases drawn with
  | none => exact follows.elim
  | some identifier =>
    obtain ⟨outstanding, current, after⟩ := follows
    cases numbers identifier rfl
    have is := challenged.state
    rcases came with ⟨block, seen, new, named⟩ | ⟨earlier, last, old, awaited, heard⟩
    · have spelt : state = block.octets := by rw [is, named, stateFor_encode]
      refine ⟨session, packet, found, ⟨block, seen, named, spelt⟩, asks, made, outstanding, current, after, ?_⟩
      intro asked
      obtain ⟨message, attributes, answered⟩ := lastRequest_answered asked
      obtain ⟨other, before, same⟩ := steady.drawn message state attributes answered
      rw [Block.ext (spelt.symm.trans same)] at new
      exact new before
    · obtain ⟨block, seen, named⟩ := steady.named work.id earlier old
      have spelt : state = block.octets := by rw [is, named, stateFor_encode]
      refine ⟨session, packet, found, ⟨block, grows.mem seen, named, spelt⟩, asks, made, outstanding, current, after, ?_⟩
      obtain ⟨previous, awaits, _, asked⟩ := steady.numbered work.id earlier old
      rw [awaited] at awaits
      cases awaits
      rw [is, asked, after last heard]
      exact fun same => succ_ne last (Option.some.inj same).symm

theorem Steady.call (steady : Steady answers before)
    (run : Runs Performs (authenticateEap engine hmacs settings arrival) before (.ok result) after) :
    Steady (result :: answers) after := by
  obtain ⟨grows, stage, tracks, concluded⟩ := call_tracks steady.awaiting run
  have answered : ∀ message state attributes, .challenge message state attributes ∈ answers →
      ∃ block : Block stateLength, .drawn block ∈ after.journal ∧ state = block.octets := by
    intro message state attributes member
    obtain ⟨block, seen, same⟩ := steady.drawn message state attributes member
    exact ⟨block, grows.mem seen, same⟩
  have named : ∀ id session, before.manager.sessions.lookup id = some session →
      ∃ block : Block stateLength, .drawn block ∈ after.journal ∧ id = Hex.encode block.octets := by
    intro id session found
    obtain ⟨block, seen, same⟩ := steady.named id session found
    exact ⟨block, grows.mem seen, same⟩
  rcases concluded with ⟨room, rfl, final⟩ | ⟨work, message, state, attributes, rfl, _, rfl, challenged⟩
  · have unasked : ∀ state, lastRequest state (result :: answers) = lastRequest state answers := by
      intro state
      cases result with
      | challenge message own attributes => cases final
      | _ => rfl
    refine ⟨fun id session found => ?_, fun id session found => named id session (tracks.1 id session found),
      fun message state attributes member => ?_⟩
    · rw [unasked]
      exact steady.numbered id session (tracks.1 id session found)
    · rcases List.mem_cons.mp member with rfl | old
      · cases final
      · exact answered message state attributes old
  · obtain ⟨session, packet, issued⟩ := challenged_issued steady grows tracks challenged
    obtain ⟨block, seen, spelt, is⟩ := issued.named
    have asked : lastRequest state (.challenge message state attributes :: answers) = some packet.identifier := by
      rw [lastRequest, if_pos rfl, requestIdentifier, eapMessage_eq issued.carried]
      rfl
    refine ⟨fun id other found => ?_, fun id other found => ?_, fun text named carried member => ?_⟩
    · by_cases own : id = work.id
      · subst own
        cases Option.some.inj (found.symm.trans issued.live)
        refine ⟨packet.identifier, issued.outstanding, issued.next, ?_⟩
        rw [← challenged.state]
        exact asked
      · have old := tracks.1 id other own found
        obtain ⟨identifier, outstanding, current, before⟩ := steady.numbered id other old
        refine ⟨identifier, outstanding, current, ?_⟩
        obtain ⟨another, _, same⟩ := named id other old
        rw [lastRequest, if_neg, before]
        rw [is, same, stateFor_encode]
        intro equal
        exact own (by rw [same, spelt, equal])
    · by_cases own : id = work.id
      · exact ⟨block, seen, own.trans spelt⟩
      · exact named id other (tracks.1 id other own found)
    · grind

end Calls

section Refusals

variable {engine : TlsEngine Connection} {hmacs : Hmacs} {settings : Settings} {Value : Type}
  {before world after : World Connection} {arrival : Arrival} {result : AuthResult} {now : Nat}

theorem runs_journal {program : Action Connection Value} {outcome : Except Empty Value}
    (run : Runs Performs program world outcome after) : world.journal <:+ after.journal := by
  induction run with
  | done => exact List.suffix_rfl
  | perform first _ ih => exact (unchanged first).journal.trans ih

theorem locked_runs {lock : Lock} {mode : LockMode} {Answer : Type} {effect : Effect Connection Answer} {answer : Answer}
    (run : Runs Performs (locked lock mode (ask effect)) world (.ok answer) after) :
    ∃ middle, Performs Answer effect { world with locks := world.locks.acquire lock mode } answer middle ∧
      after = { middle with locks := middle.locks.release lock mode } := by
  simp only [locked, ask_bind, runs_perform, pure_eq, runs_done] at run
  obtain ⟨_, first, ⟨_, rfl⟩, found, middle, performed, _, last, rfl, same, rfl⟩ := run
  cases same
  exact ⟨middle, performed, rfl⟩

theorem dropMethodState_runs {ids : List SessionId} (run : Runs Performs (dropMethodState ids) world (.ok ()) after) :
    after.manager = world.manager ∧ after.journal = world.journal ∧
      ∀ id, id ∉ ids → after.tlsSessions.lookup id = world.tlsSessions.lookup id ∧
        after.teapSessions.lookup id = world.teapSessions.lookup id := by
  obtain ⟨_, middle, first, second⟩ := runs_bind_ok.mp run
  obtain ⟨_, rfl, rfl⟩ := locked_runs first
  obtain ⟨_, rfl, rfl⟩ := locked_runs second
  refine ⟨rfl, rfl, fun id spared => ⟨?_, ?_⟩⟩
  · exact (Maps.lookup_eraseAll ids world.tlsSessions id).trans (if_neg spared)
  · exact (Maps.lookup_eraseAll ids world.teapSessions id).trans (if_neg spared)

structure Reaped (now : Nat) (before after : World Connection) : Prop where
  manager : after.manager = (before.manager.evictIdleAt now).2
  journal : after.journal = before.journal
  methods : ∀ id ∈ after.manager.sessions, after.tlsSessions.lookup id = before.tlsSessions.lookup id ∧
    after.teapSessions.lookup id = before.teapSessions.lookup id

theorem reapIdleAt_runs {count : Nat} (run : Runs Performs (reapIdleAt now) before (.ok count) after) :
    Reaped now before after := by
  obtain ⟨evicted, middle, first, rest⟩ := runs_bind_ok.mp run
  obtain ⟨_, ⟨rfl, rfl⟩, rfl⟩ := locked_runs first
  have evicts := before.manager.evictIdleAt_evicts now
  have dropped : ∀ id, after.manager = (before.manager.evictIdleAt now).2 → id ∈ after.manager.sessions →
      id ∉ (before.manager.evictIdleAt now).1.map Prod.fst := by
    intro id same live gone
    rw [same] at live
    exact AList.lookup_eq_none.mp (evicts.gone id gone) live
  unfold dropEvicted at rest
  split at rest
  · obtain ⟨_, rfl⟩ := runs_done.mp rest
    exact ⟨rfl, rfl, fun _ _ => ⟨rfl, rfl⟩⟩
  · obtain ⟨_, cleared, drops, rest⟩ := runs_bind_ok.mp rest
    obtain ⟨counted, last, counts, rest⟩ := runs_bind_ok.mp rest
    obtain ⟨_, ⟨_, rfl⟩, rfl⟩ := locked_runs counts
    obtain ⟨_, rfl⟩ := runs_done.mp rest
    obtain ⟨same, quiet, kept⟩ := dropMethodState_runs drops
    exact ⟨same, quiet, fun id live => kept id (dropped id same live)⟩

/-- The State names a live session, and the Response comes from its peer and
answers its outstanding Request. -/
def Claims (arrival : Arrival) (before after : World Connection) : Prop :=
  ∃ id session response, arrival.response = some response ∧ sessionIdForState arrival.state = some id ∧
    before.manager.sessions.lookup id = some session ∧
    session.peerBinding = conversationBinding arrival.request arrival.client ∧
    session.outstandingIdentifier = some response.identifier ∧
    .claimed id arrival response.identifier :: before.journal <:+ after.journal

/-- The request is refused, and no session changes that is not idle. -/
def Refused (result : AuthResult) (before after : World Connection) : Prop :=
  (result = .reject ∨ result = .discard) ∧ ∃ now, Reaped now before after

theorem continueConversation_runs {response : EapPacket} (reaped : Reaped now before world)
    (carried : arrival.response = some response)
    (run : Runs Performs (continueConversation engine hmacs settings arrival response) world (.ok result) after) :
    Claims arrival before after ∨ Refused result before after := by
  unfold continueConversation at run
  split at run
  · obtain ⟨answered, rfl⟩ := runs_done.mp run
    cases answered
    exact .inr ⟨.inl rfl, now, reaped⟩
  · rename_i id named
    obtain ⟨claim, claimed, first, rest⟩ := runs_bind_ok.mp run
    obtain ⟨middle, claims, rfl⟩ := locked_runs first
    rcases claimResponse_cases claims with ⟨refused, rfl⟩ | ⟨session, rfl, found, bound, awaited, sets⟩
    · have refusing : ∀ reply locks, (reply = .reject ∨ reply = .discard) →
          Runs Performs (pure reply : Action Connection AuthResult) { world with locks } (.ok result) after →
          Claims arrival before after ∨ Refused result before after := by
        intro reply locks negative ended
        obtain ⟨answered, rfl⟩ := runs_done.mp ended
        cases answered
        exact .inr ⟨negative, now, reaped.manager, reaped.journal, reaped.methods⟩
      cases claim with
      | claimed => exact absurd rfl refused
      | unknownSession | bindingMismatch => exact refusing _ _ (.inl rfl) rest
      | identifierMismatch => exact refusing _ _ (.inr rfl) rest
    · refine .inl ⟨id, session, response, carried, named, ?_, bound, awaited, ?_⟩
      · have found : world.manager.sessions.lookup id = some session := found
        rw [reaped.manager] at found
        exact (before.manager.evictIdleAt_evicts now).shrinks id session found
      · have later := runs_journal rest
        dsimp only at later
        rw [sets.journal] at later
        exact reaped.journal ▸ later

theorem claims_or_refused (continues : arrival.starts = false)
    (run : Runs Performs (authenticateEap engine hmacs settings arrival) before (.ok result) after) :
    Claims arrival before after ∨ Refused result before after := by
  obtain ⟨now, _, clock, called⟩ := runs_bind_ok.mp run
  obtain ⟨_, same, still⟩ := runs_ask.mp clock
  cases same
  cases still
  obtain ⟨count, world, reaping, rest⟩ := runs_bind_ok.mp called
  have reaped := reapIdleAt_runs reaping
  have rejected : Runs Performs (pure .reject : Action Connection AuthResult) world (.ok result) after →
      Claims arrival before after ∨ Refused result before after := by
    intro ended
    obtain ⟨answered, rfl⟩ := runs_done.mp ended
    cases answered
    exact .inr ⟨.inl rfl, now, reaped⟩
  split at rest
  · rename_i empty
    rw [Arrival.starts, empty, Bool.true_or] at continues
    cases continues
  · rename_i present
    split at rest
    · exact rejected rest
    · rename_i packet parsed
      have carried : arrival.response = some packet := by
        rw [Arrival.response, if_neg present, parsed]
        rfl
      split at rest
      · exact rejected rest
      · split at rest
        · simp_all [Arrival.starts]
        · exact continueConversation_runs reaped carried rest

end Refusals

section Main

variable (engine : TlsEngine Connection) (hmacs : Hmacs) (settings : Settings)

theorem Calls.steady {engine : TlsEngine Connection} {hmacs : Hmacs} {settings : Settings} {timeout maxSessions : Nat}
    (calls : Calls engine hmacs settings (.initial timeout maxSessions) answers world) : Steady answers world := by
  induction calls with
  | none =>
    refine ⟨fun id session found => ?_, fun id session found => ?_, fun message state attributes member => ?_⟩
    · cases found
    · cases found
    · cases member
  | call _ run ih => exact ih.call run

/-- After every Access-Challenge the session awaits the Response to the Request
it carries, whose Identifier is not that of the Request before; and a request
that no session claims leaves every session that is not idle as it is. -/
theorem identifiers_in_step {timeout maxSessions : Nat} {answers : List AuthResult} {before after : World Connection}
    {arrival : Arrival} {result : AuthResult}
    (calls : Calls engine hmacs settings (.initial timeout maxSessions) answers before)
    (run : Runs Performs (authenticateEap engine hmacs settings arrival) before (.ok result) after) :
    (∀ message state attributes, result = .challenge message state attributes →
      ∃ (id : SessionId) (session : EapSession) (packet : EapPacket), sessionIdForState (some state) = some id ∧
        after.manager.sessions.lookup id = some session ∧ packet.code = .request ∧
        eapMessage attributes = packet.toBytes ∧ session.outstandingIdentifier = some packet.identifier ∧
        lastRequest state answers ≠ some packet.identifier ∧
        ∀ response, arrival.response = some response → packet.identifier = response.identifier + 1) ∧
    (arrival.starts = false → Claims arrival before after ∨ Refused result before after) := by
  refine ⟨fun message state attributes challenges => ?_, fun continues => claims_or_refused continues run⟩
  have steady := calls.steady
  obtain ⟨grows, stage, tracks, concluded⟩ := call_tracks steady.awaiting run
  rcases concluded with ⟨_, _, final⟩ | ⟨work, _, _, _, rfl, last, same, challenged⟩
  · rw [challenges] at final
    cases final
  · cases challenges.symm.trans same
    obtain ⟨session, packet, issued⟩ := challenged_issued steady grows tracks challenged
    obtain ⟨block, _, spelt, is⟩ := issued.named
    refine ⟨work.id, session, packet, ?_, issued.live, issued.request, eapMessage_eq issued.carried,
      issued.outstanding, issued.differs, fun response carried => issued.follows _ ?_⟩
    · rw [is, spelt]
      exact if_pos block.size
    · rw [last, carried]
      rfl

end Main

open TlsEngine (PlainConnection plain)

/-- The first of several fragments in the conversation whose State is all ones. -/
def sampleFragment : Arrival :=
  ⟨sampleRequest [2, 1, 0, 11, 13, 0xc0, 0, 0, 0, 10, 22] [List.replicate 16 1], none, by decide⟩

def answering (around : Surroundings Connection) (Answer : Type) (effect : Effect Connection Answer)
    (world : World Connection) : Option (Answer × World Connection) :=
  if unblocked world Answer effect then some (perform around Answer effect world) else none

theorem answering_performs (around : Surroundings Connection) (Answer : Type) (effect : Effect Connection Answer)
    (world : World Connection) (answer : Answer) (after : World Connection)
    (handled : answering around Answer effect world = some (answer, after)) :
    Performs Answer effect world answer after := by
  unfold answering at handled
  split at handled
  · rename_i goes
    have performed := perform_performs around world Answer effect goes
    rw [Option.some.inj handled] at performed
    exact performed
  · cases handled

/-- The call in surroundings in which a new State is all ones. -/
def sampleCall (arrival : Arrival) (world : World PlainConnection) : Option (Except Empty AuthResult × World PlainConnection) :=
  (authenticateEap plain .checksum sampleSettings arrival).exec (answering (sampleSurroundings 1)) world

/-- The second answer is a challenge of the same conversation. -/
def goesOn (first second : AuthResult) : Bool :=
  match second with
  | .challenge _ state attributes => lastRequest state [first] == some 1 && requestIdentifier attributes == some 2
  | _ => false

theorem sampleFragment_in_step :
    ∃ first second before after, Calls plain .checksum sampleSettings (.initial 120 4096) [first] before ∧
      Runs Performs (authenticateEap plain .checksum sampleSettings sampleFragment) before (.ok second) after ∧
      goesOn first second = true ∧
      ∃ id session, after.manager.sessions.lookup id = some session ∧ session.outstandingIdentifier = some 2 := by
  have ran : ((sampleCall sampleIdentity (.initial 120 4096)).any fun first =>
      (sampleCall sampleFragment first.2).any fun second =>
        match first.1, second.1 with
        | .ok first, .ok second => goesOn first second) = true := by
    decide +kernel
  obtain ⟨⟨first, before⟩, called, continues⟩ := (Option.any_eq_true _ _).mp ran
  obtain ⟨⟨second, after⟩, again, goes⟩ := (Option.any_eq_true _ _).mp continues
  cases first with
  | error impossible => exact impossible.elim
  | ok first =>
    cases second with
    | error impossible => exact impossible.elim
    | ok second =>
      have calls : Calls plain .checksum sampleSettings (.initial 120 4096) [first] before :=
        .call .none (exec_runs (answering_performs _) called)
      have run : Runs Performs (authenticateEap plain .checksum sampleSettings sampleFragment) before (.ok second) after :=
        exec_runs (answering_performs _) again
      refine ⟨first, second, before, after, calls, run, goes, ?_⟩
      cases second with
      | challenge message state attributes =>
        obtain ⟨id, session, packet, _, found, _, carried, outstanding, _⟩ :=
          (identifiers_in_step plain .checksum sampleSettings calls run).1 message state attributes rfl
        have numbered := beq_iff_eq.mp (Bool.and_eq_true_iff.mp goes).2
        rw [requestIdentifier, carried] at numbered
        exact ⟨id, session, found, outstanding.trans numbered⟩
      | _ => cases goes

end UsgRadius.Eap.EapAuthHandler
