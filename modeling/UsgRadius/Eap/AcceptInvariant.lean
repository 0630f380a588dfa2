import UsgRadius.Eap.Custody

namespace UsgRadius.Eap

open Data EapAuthHandler

/-! An Access-Accept is given only at the end of a conversation that
authenticated its peer, and the Responses and Naks of a conversation are taken
in turn. -/

variable {Connection : Type}

inductive Authenticated (engine : TlsEngine Connection) (hmacs : Hmacs) (past : List (Event Connection))
    (id : SessionId) (username : String) : Octets → Prop
  | tls {server examined : EapTlsServer Connection} {msk : Block 64} (keyed : .keyed id server ∈ past)
      (extracted : server.KeyedBy engine msk) (looked : .examined id username examined ∈ past)
      (identity : examined.getPeerCertificates engine = none ∨
        examined.verifyPeerIdentity engine username = .ok true) :
      Authenticated engine hmacs past id username msk.octets
  | teap {server : TeapServer Connection} {msk : Octets} (released : .released id server ∈ past)
      (given : server.getMsk hmacs = some msk) : Authenticated engine hmacs past id username msk

/-- The State names a conversation that was started from the same origin; it is the
Response of this request that was taken in it, with no Request and no
Access-Accept since; and its peer is authenticated. -/
def Accepted (engine : TlsEngine Connection) (hmacs : Hmacs) (past : List (Event Connection)) (arrival : Arrival)
    (msk : Option Octets) : Prop :=
  ∃ id response key, sessionIdForState arrival.state = some id ∧ .started id arrival.origin ∈ past ∧
    EapPacket.fromBytes arrival.eapData = .ok response ∧
    inHand (conversation id past) = some (arrival, response.identifier) ∧
    Authenticated engine hmacs past id arrival.username key ∧ msk = some key

def Justified (engine : TlsEngine Connection) (hmacs : Hmacs) (past : List (Event Connection)) :
    Event Connection → Prop
  | .claimed id _ identifier => outstanding (conversation id past) = some identifier
  | .renegotiated id => .renegotiated id ∉ past ∧ .fed id ∉ past
  | .answered arrival (.accept _ msk) => Accepted engine hmacs past arrival msk
  | _ => True

def Sound (engine : TlsEngine Connection) (hmacs : Hmacs) : List (Event Connection) → Prop
  | [] => True
  | event :: past => Justified engine hmacs past event ∧ Sound engine hmacs past

/-- Where a call stands: the request it serves, the conversation it owns, and the
name it has drawn for one that is not started yet. -/
structure Phase (Connection : Type) where
  arrival : Option Arrival
  grip : Option (Grip Connection)
  drawn : Option SessionId

def EapAuthHandler.Task.arrival : Task → Option Arrival
  | .authenticate arrival => some arrival
  | .reap _ => none
  | .reapIdle _ => none

namespace Grip

variable (engine : TlsEngine Connection) (hmacs : Hmacs) (settings : Settings)

/-! What the owner knows after it has looked at the conversation or changed it. -/

def meetTls (server : EapTlsServer Connection) (grip : Grip Connection) : Grip Connection :=
  { grip with
    noTeap := true
    vouched := grip.vouched || server.commitmentSent
    unfed := grip.unfed || (grip.settled && server.untouched) }

def meetTeap (server : TeapServer Connection) (grip : Grip Connection) : Grip Connection :=
  { grip with noTls := true, unfed := grip.unfed || (grip.settled && server.peerVersion.isNone) }

def holdTls (server : EapTlsServer Connection) (grip : Grip Connection) : Grip Connection :=
  { grip with noTls := false, settled := !server.untouched || grip.unfed }

def holdTeap (server : TeapServer Connection) (grip : Grip Connection) : Grip Connection :=
  { grip with noTeap := false, settled := server.peerVersion.isSome || grip.unfed }

def feed (grip : Grip Connection) : Grip Connection :=
  { grip with unfed := false, settled := false }

def examine (username : String) (server : EapTlsServer Connection) (grip : Grip Connection) : Grip Connection :=
  { grip with vouched := grip.vouched || identityVerified engine username server }

def key (server : EapTlsServer Connection) (grip : Grip Connection) : Grip Connection :=
  { grip with keyed := some server }

def release (server : TeapServer Connection) (grip : Grip Connection) : Grip Connection :=
  { grip with released := some server }

/-- Where TEAP is configured it is proposed first, so that this session is not
found. -/
def outOfTurn (session : EapSession) : Bool :=
  session.eapMethod == some .tls && teapEnabled settings

def learn (grip : Grip Connection) :
    (Answer : Type) → Effect Connection Answer → Answer → Option (Grip Connection)
  | _, .getSession id, some session =>
    some (if id = grip.id ∧ session.attemptCount = 0 then
      { grip with untried := true, unfed := grip.unfed || outOfTurn settings session }
      else grip)
  | _, .tlsGet id, some server => some (if id = grip.id then grip.meetTls server else grip)
  | _, .teapGet id, some server => some (if id = grip.id then grip.meetTeap server else grip)
  | _, .updateSession _ (.renegotiate _), true => some { grip with untried := false }
  | _, .nextIdentifier _, some _ => none
  | _, .tlsPut _ server, _ => some (grip.holdTls server)
  | _, .teapPut _ server, _ => some (grip.holdTeap server)
  | _, .tlsRemove ids, _ => some (if grip.id ∈ ids then { grip with noTls := true } else grip)
  | _, .teapRemove ids, _ => some (if grip.id ∈ ids then { grip with noTeap := true } else grip)
  | _, .note (.fed _), _ => some grip.feed
  | _, .note (.examined _ username server), _ => some (grip.examine engine username server)
  | _, .note (.keyed _ server), _ => some (grip.key server)
  | _, .note (.released _ server), _ => some (grip.release server)
  | _, .note (.answered _ (.accept _ _)), _ => none
  | _, _, _ => some grip

/-- The owner may answer with an Access-Accept. -/
def Wins (arrival : Arrival) (grip : Grip Connection) (msk : Option Octets) : Prop :=
  sessionIdForState arrival.state = some grip.id ∧
    (∃ response, EapPacket.fromBytes arrival.eapData = .ok response ∧ grip.claimed = some response.identifier) ∧
    ((grip.vouched = true ∧ ∃ server key, grip.keyed = some server ∧ server.KeyedBy engine key ∧
        msk = some key.octets) ∨
      ∃ server key, grip.released = some server ∧ server.getMsk hmacs = some key ∧ msk = some key)

end Grip

namespace Phase

variable (engine : TlsEngine Connection) (hmacs : Hmacs) (settings : Settings)

def Owns (phase : Phase Connection) (id : SessionId) (knows : Grip Connection → Prop) : Prop :=
  ∃ grip, phase.grip = some grip ∧ grip.id = id ∧ knows grip

def permits (phase : Phase Connection) : (Answer : Type) → Effect Connection Answer → Prop
  | _, .createSession id origin => phase.drawn = some id ∧ ∃ arrival, phase.arrival = some arrival ∧ origin = arrival.origin
  | _, .claimResponse _ arrival _ => phase.grip = none ∧ phase.arrival = some arrival
  | _, .updateSession _ (.identify _ method) => method = preferredMethod settings
  | _, .updateSession id (.renegotiate _) => phase.Owns id fun grip => grip.unfed = true ∧ grip.untried = true
  | _, .nextIdentifier id => phase.Owns id fun grip => grip.settled = true
  | _, .tlsPut id server => phase.Owns id fun grip =>
    grip.noTeap = true ∧ (server.commitmentSent = true → grip.vouched = true)
  | _, .teapPut id _ => phase.Owns id fun grip => grip.noTls = true
  | _, .note (.fed id) => phase.Owns id fun _ => True
  | _, .note (.examined id username _) => phase.Owns id fun _ =>
    ∃ arrival, phase.arrival = some arrival ∧ username = arrival.username
  | _, .note (.keyed id _) => phase.Owns id fun _ => True
  | _, .note (.released id _) => phase.Owns id fun _ => True
  | _, .note (.answered arrival (.accept _ msk)) =>
    phase.arrival = some arrival ∧ ∃ grip, phase.grip = some grip ∧ grip.Wins engine hmacs arrival msk
  | _, .note (.answered _ _) => True
  | _, .note _ => False
  | _, _ => True

def advance (phase : Phase Connection) (Answer : Type) (effect : Effect Connection Answer) (answer : Answer) :
    Phase Connection :=
  match effect, answer with
  | .drawState, some state => { phase with drawn := some (Hex.encode state.octets) }
  | .createSession id _, _ => { phase with grip := some (.creator id), drawn := none }
  | .claimResponse id _ identifier, .claimed => { phase with grip := some (.claimant id identifier) }
  | effect, answer => { phase with grip := phase.grip.bind fun grip => grip.learn engine settings _ effect answer }

end Phase

def custody (engine : TlsEngine Connection) (hmacs : Hmacs) (settings : Settings) :
    Protocol (Effect Connection) (Phase Connection) where
  permits := Phase.permits engine hmacs settings
  advance := Phase.advance engine settings
  rests := fun _ => True

def Drawn (journal : List (Event Connection)) (id : SessionId) : Prop :=
  ∃ state, .drawn state ∈ journal ∧ id = Hex.encode state.octets

/-- What is recorded starts no conversation. -/
def StartsNothing (after before : List (Event Connection)) : Prop :=
  (∀ state, .drawn state ∈ before → .drawn state ∈ after) ∧
    ∀ id origin, .started id origin ∈ after → .started id origin ∈ before

/-- The conversation that a call has drawn a State for is not started yet, and
what a call knows of the one it owns is so. -/
structure Phase.Supported (engine : TlsEngine Connection) (world : World Connection) (phase : Phase Connection) :
    Prop where
  fresh : ∀ id, phase.drawn = some id → Drawn world.journal id ∧ ∀ origin, .started id origin ∉ world.journal
  backed : ∀ grip, phase.grip = some grip →
    ∃ arrival, phase.arrival = some arrival ∧ grip.Backed engine arrival (world.view grip.id)

def Phase.Apart (left right : Phase Connection) : Prop :=
  (∀ id, left.drawn = some id → right.drawn ≠ some id) ∧
    ∀ one two, left.grip = some one → right.grip = some two → one.id ≠ two.id

structure Kept (engine : TlsEngine Connection) (hmacs : Hmacs) (settings : Settings) (world : World Connection) :
    Prop where
  sound : Sound engine hmacs world.journal
  named : ∀ id origin, .started id origin ∈ world.journal → Drawn world.journal id
  coherent : ∀ id, (world.view id).Coherent engine settings id

/-- A call at its place, beside the others. -/
structure Custodian (engine : TlsEngine Connection) (hmacs : Hmacs) (settings : Settings) (world : World Connection)
    (beside : List (Task × Phase Connection)) (phase : Phase Connection) : Prop extends
    Kept engine hmacs settings world where
  own : phase.Supported engine world
  others : ∀ label ∈ beside, label.2.Supported engine world ∧ phase.Apart label.2

section Keeping

variable {engine : TlsEngine Connection} {hmacs : Hmacs} {settings : Settings} {world after : World Connection}
  {beside : List (Task × Phase Connection)} {phase next : Phase Connection} {Answer : Type}
  {effect : Effect Connection Answer} {answer : Answer} {grip learnt : Grip Connection}
  {journal : List (Event Connection)} {event : Event Connection} {id : SessionId}

theorem startsNothing_refl (journal : List (Event Connection)) : StartsNothing journal journal :=
  ⟨fun _ member => member, fun _ _ member => member⟩

theorem startsNothing_cons (notStart : ∀ id origin, event ≠ .started id origin) :
    StartsNothing (event :: journal) journal :=
  ⟨fun _ member => List.mem_cons_of_mem _ member,
    fun id origin member => by simpa [(notStart id origin).symm] using member⟩

theorem Drawn.mono {before : List (Event Connection)} (drawn : Drawn before id)
    (grows : ∀ state, .drawn state ∈ before → .drawn state ∈ journal) : Drawn journal id := by
  obtain ⟨state, seen, spelt⟩ := drawn
  exact ⟨state, grows state seen, spelt⟩

theorem Phase.Supported.keep (supported : phase.Supported engine world)
    (grows : ∀ state, .drawn state ∈ world.journal → .drawn state ∈ after.journal)
    (unstarted : ∀ id origin, phase.drawn = some id → .started id origin ∈ after.journal →
      .started id origin ∈ world.journal)
    (wanes : ∀ grip, phase.grip = some grip → View.Wanes settings (after.view grip.id) (world.view grip.id)) :
    phase.Supported engine after where
  fresh := by
    intro id own
    obtain ⟨drawn, unused⟩ := supported.fresh id own
    exact ⟨drawn.mono grows, fun origin started => unused origin (unstarted id origin own started)⟩
  backed := by
    intro grip held
    obtain ⟨arrival, known, backed⟩ := supported.backed grip held
    exact ⟨arrival, known, backed.wane (wanes grip held)⟩

namespace Custodian

variable (turn : Custodian engine hmacs settings world beside phase)

include turn

theorem distinct (gripped : phase.grip = some grip) :
    ∀ label ∈ beside, ∀ other, label.2.grip = some other → other.id ≠ grip.id :=
  fun label member other held same => (turn.others label member).2.2 grip other gripped held same.symm

/-- The own conversation may change, no other. -/
theorem view_coherent (elsewhere : ∀ other, other ≠ id → after.view other = world.view other)
    (coherent : (after.view id).Coherent engine settings id) (other : SessionId) :
    (after.view other).Coherent engine settings other := by
  have before := turn.coherent other
  by_cases here : other = id <;> grind

theorem step (sound : Sound engine hmacs after.journal)
    (grows : ∀ state, .drawn state ∈ world.journal → .drawn state ∈ after.journal)
    (starts : ∀ id origin, .started id origin ∈ after.journal →
      .started id origin ∈ world.journal ∨ (phase.drawn = some id ∧ next.drawn = none))
    (coherent : ∀ id, (after.view id).Coherent engine settings id)
    (wanes : ∀ label ∈ beside, ∀ grip, label.2.grip = some grip →
      View.Wanes settings (after.view grip.id) (world.view grip.id))
    (drawn : next.drawn = none ∨ next.drawn = phase.drawn)
    (owns : ∀ grip, next.grip = some grip →
      (∃ arrival, next.arrival = some arrival ∧ grip.Backed engine arrival (after.view grip.id)) ∧
        ∀ label ∈ beside, ∀ other, label.2.grip = some other → other.id ≠ grip.id) :
    Custodian engine hmacs settings after beside next where
  sound
  named id origin started := by
    rcases starts id origin started with old | new
    · exact (turn.named id origin old).mono grows
    · exact (turn.own.fresh id new.1).1.mono grows
  coherent
  own := by
    refine ⟨fun id is => ?_, fun grip held => (owns grip held).1⟩
    obtain ⟨seen, unused⟩ := turn.own.fresh id (by grind)
    exact ⟨seen.mono grows, by grind⟩
  others label member := by
    obtain ⟨supported, apart⟩ := turn.others label member
    refine ⟨supported.keep grows (fun id origin own started => ?_) (wanes label member), ?_, ?_⟩
    · exact (starts id origin started).resolve_right fun new => apart.1 id new.1 own
    · grind [Phase.Apart]
    · exact fun one two own other same => (owns one own).2 label member two other same.symm

end Custodian

/-! ## Steps that enter no conversation -/

def Effect.enters : (Answer : Type) → Effect Connection Answer → Bool
  | _, .drawState | _, .createSession _ _ | _, .claimResponse _ _ _ => true
  | _, _ => false

theorem advance_learns (plain : Effect.enters Answer effect = false) :
    phase.advance engine settings Answer effect answer =
      { phase with grip := phase.grip.bind fun grip => grip.learn engine settings Answer effect answer } := by
  cases effect with
  | drawState | createSession _ _ | claimResponse _ _ _ => cases plain
  | _ => rfl

theorem learn_id (learns : grip.learn engine settings Answer effect answer = some learnt) : learnt.id = grip.id := by
  cases effect with
  | getSession _ | tlsGet _ | teapGet _ =>
    cases answer with
    | none => exact congrArg Grip.id (Option.some.inj learns).symm
    | some found =>
      cases learns
      split <;> rfl
  | tlsRemove _ | teapRemove _ =>
    cases learns
    split <;> rfl
  | nextIdentifier _ =>
    cases answer <;> cases learns
    rfl
  | updateSession _ change =>
    cases change <;> cases answer <;> cases learns <;> rfl
  | note event =>
    cases event with
    | answered _ result => cases result <;> cases learns <;> rfl
    | _ =>
      cases learns
      rfl
  | _ =>
    cases learns
    rfl

variable {session : EapSession}

namespace Custodian

variable (turn : Custodian engine hmacs settings world beside phase)

include turn

theorem learn (plain : Effect.enters Answer effect = false) (sound : Sound engine hmacs after.journal)
    (nothing : StartsNothing after.journal world.journal) (coherent : ∀ id, (after.view id).Coherent engine settings id)
    (wanes : ∀ label ∈ beside, ∀ grip, label.2.grip = some grip →
      View.Wanes settings (after.view grip.id) (world.view grip.id))
    (learns : ∀ grip learnt arrival, phase.grip = some grip → grip.learn engine settings Answer effect answer = some learnt →
      phase.arrival = some arrival → grip.Backed engine arrival (world.view grip.id) →
      learnt.Backed engine arrival (after.view grip.id)) :
    Custodian engine hmacs settings after beside (phase.advance engine settings Answer effect answer) := by
  rw [advance_learns plain]
  refine turn.step sound nothing.1 (fun id origin started => .inl (nothing.2 id origin started)) coherent wanes (.inr rfl)
    fun learnt present => ?_
  obtain ⟨grip, gripped, learnt⟩ := Option.bind_eq_some_iff.mp present
  obtain ⟨arrival, known, backed⟩ := turn.own.backed grip gripped
  rw [learn_id learnt]
  exact ⟨⟨arrival, known, learns grip _ arrival gripped learnt known backed⟩, turn.distinct gripped⟩

/-- A step of the owner in its own conversation. -/
theorem focus (gripped : phase.grip = some grip) (plain : Effect.enters Answer effect = false)
    (sound : Sound engine hmacs after.journal) (nothing : StartsNothing after.journal world.journal)
    (elsewhere : ∀ other, other ≠ grip.id → after.view other = world.view other)
    (changes : ∀ arrival, phase.arrival = some arrival → grip.Backed engine arrival (world.view grip.id) →
      (after.view grip.id).Coherent engine settings grip.id ∧
        ∀ learnt, grip.learn engine settings Answer effect answer = some learnt →
          learnt.Backed engine arrival (after.view grip.id)) :
    Custodian engine hmacs settings after beside (phase.advance engine settings Answer effect answer) := by
  obtain ⟨arrival, known, owned⟩ := turn.own.backed grip gripped
  apply turn.learn plain sound nothing (turn.view_coherent elsewhere (changes arrival known owned).1)
  · intro label member other held
    rw [elsewhere other.id (turn.distinct gripped label member other held)]
    exact .refl settings _
  · intro own learnt arrival same learns known backed
    cases gripped.symm.trans same
    exact (changes arrival known backed).2 learnt learns

/-- What the owner does to the session of its conversation. -/
theorem sets (gripped : phase.grip = some grip) (plain : Effect.enters Answer effect = false)
    (sets : Sets grip.id session [event] world after) (about : event.session = some grip.id)
    (justified : Justified engine hmacs world.journal event) (notStart : ∀ id origin, event ≠ .started id origin)
    (changes : ∀ arrival, phase.arrival = some arrival → grip.Backed engine arrival (world.view grip.id) →
      ((world.view grip.id).goes event (some session)).Coherent engine settings grip.id ∧
        ∀ learnt, grip.learn engine settings Answer effect answer = some learnt →
          learnt.Backed engine arrival ((world.view grip.id).goes event (some session))) :
    Custodian engine hmacs settings after beside (phase.advance engine settings Answer effect answer) := by
  have own : ∀ other ∈ [event], other.session = some grip.id := by simpa using about
  apply turn.focus gripped plain
  · rw [sets.journal]
    exact ⟨justified, turn.sound⟩
  · rw [sets.journal]
    exact startsNothing_cons notStart
  · exact fun other => sets.elsewhere own
  · rw [sets.here own]
    exact changes

theorem note {event : Event Connection} (gripped : phase.grip = some grip) (session : event.session = some grip.id)
    (justified : Justified engine hmacs world.journal event) (notStart : ∀ id origin, event ≠ .started id origin)
    (notNak : event ≠ .renegotiated grip.id) (still : ∀ history, outstanding (event :: history) = outstanding history)
    (learns : ∀ learnt arrival, grip.learn engine settings Unit (.note event) () = some learnt →
      phase.arrival = some arrival → grip.Backed engine arrival (world.view grip.id) →
      learnt.Backed engine arrival ((world.view grip.id).goes event (world.view grip.id).session)) :
    Custodian engine hmacs settings (world.record event) beside
      (phase.advance engine settings Unit (.note event) ()) := by
  have sound : Sound engine hmacs (world.record event).journal := ⟨justified, turn.sound⟩
  apply turn.focus gripped rfl sound (startsNothing_cons notStart)
  · intro other different
    apply view_record_other
    rw [session]
    exact fun equal => different (Option.some.inj equal).symm
  · intro arrival known backed
    rw [view_record_own session]
    exact ⟨(turn.coherent grip.id).note backed.started backed.quiet (notStart grip.id) notNak (still _),
      fun learnt learning => learns learnt arrival learning known backed⟩

end Custodian

theorem Grip.Backed.note {arrival : Arrival} {view : View Connection} {event : Event Connection}
    (backed : grip.Backed engine arrival view) (same : outstanding (event :: view.history) = outstanding view.history)
    (claim : inHand (event :: view.history) = inHand view.history)
    (notFed : grip.unfed = true ∨ grip.settled = true → .fed grip.id ≠ event) (notNak : .renegotiated grip.id ≠ event) :
    grip.Backed engine arrival { view with history := event :: view.history } where
  started := List.mem_cons_of_mem _ backed.started
  quiet := same.trans backed.quiet
  claimed := fun identifier taken => claim.trans (backed.claimed identifier taken)
  noTls := backed.noTls
  noTeap := backed.noTeap
  unfed := fun unfed => List.not_mem_cons_of_ne_of_not_mem (notFed (.inl unfed)) (backed.unfed unfed)
  untried := fun untried => List.not_mem_cons_of_ne_of_not_mem notNak (backed.untried untried)
  settled := fun settled =>
    have ⟨tls, teap⟩ := backed.settled settled
    ⟨fun server found idle => List.not_mem_cons_of_ne_of_not_mem (notFed (.inr settled)) (tls server found idle),
      fun server found idle => List.not_mem_cons_of_ne_of_not_mem (notFed (.inr settled)) (teap server found idle)⟩
  vouched := fun vouched =>
    have ⟨server, examined, verified⟩ := backed.vouched vouched
    ⟨server, List.mem_cons_of_mem _ examined, verified⟩
  keyed := fun server keyed => List.mem_cons_of_mem _ (backed.keyed server keyed)
  released := fun server released => List.mem_cons_of_mem _ (backed.released server released)

theorem Grip.Backed.meetTls {arrival : Arrival} {view : View Connection} {server : EapTlsServer Connection}
    (backed : grip.Backed engine arrival view) (coherent : view.Coherent engine settings grip.id)
    (found : view.tls = some server) : (grip.meetTls server).Backed engine arrival view := by
  have named := arrival.origin_username
  cases backed
  cases coherent
  constructor <;> grind [Grip.meetTls, View.Settled]

theorem Grip.Backed.meetTeap {arrival : Arrival} {view : View Connection} {server : TeapServer Connection}
    (backed : grip.Backed engine arrival view) (coherent : view.Coherent engine settings grip.id)
    (found : view.teap = some server) : (grip.meetTeap server).Backed engine arrival view := by
  cases backed
  cases coherent
  constructor <;> grind [Grip.meetTeap, View.Settled, Option.isNone_iff_eq_none]

/-- What the owner learns from an effect that leaves the conversations alone. -/
theorem learn_quiet {arrival : Arrival} (quiet : effect.isQuiet = true) (performed : Performs Answer effect world answer after)
    (coherent : (after.view grip.id).Coherent engine settings grip.id)
    (learns : grip.learn engine settings Answer effect answer = some learnt)
    (backed : grip.Backed engine arrival (after.view grip.id)) : learnt.Backed engine arrival (after.view grip.id) := by
  cases effect with
  | getSession id =>
    obtain ⟨found, rfl⟩ := performed
    cases answer with
    | none => exact Option.some.inj learns ▸ backed
    | some session =>
      cases learns
      split
      · rename_i own
        have present : (after.view grip.id).session = some session := by rw [← own.1, found]; rfl
        exact { backed with
          unfed := by grind [coherent.proposed session present own.2, Grip.outOfTurn, preferredMethod, backed.unfed]
          untried := fun _ => coherent.tried session present own.2 }
      · exact backed
  | tlsGet id =>
    obtain ⟨found, rfl⟩ := performed
    cases answer with
    | none => exact Option.some.inj learns ▸ backed
    | some server =>
      cases learns
      split
      · exact backed.meetTls coherent (by grind [World.view])
      · exact backed
  | teapGet id =>
    obtain ⟨found, rfl⟩ := performed
    cases answer with
    | none => exact Option.some.inj learns ▸ backed
    | some server =>
      cases learns
      split
      · exact backed.meetTeap coherent (by grind [World.view])
      · exact backed
  | tlsRemove ids =>
    cases performed
    cases learns
    split
    · rename_i own
      exact { backed with noTls := fun _ => (Maps.lookup_eraseAll _ _ _).trans (if_pos own) }
    · exact backed
  | teapRemove ids =>
    cases performed
    cases learns
    split
    · rename_i own
      exact { backed with noTeap := fun _ => (Maps.lookup_eraseAll _ _ _).trans (if_pos own) }
    · exact backed
  | updateSession id change =>
    cases change with
    | renegotiate method => cases quiet
    | _ => exact Option.some.inj learns ▸ backed
  | createSession _ _ | nextIdentifier _ | claimResponse _ _ _ | tlsPut _ _ | teapPut _ _ | note _ => cases quiet
  | _ => exact Option.some.inj learns ▸ backed

namespace Custodian

variable (turn : Custodian engine hmacs settings world beside phase) {id : SessionId} {event : Event Connection}

include turn

theorem accepted {arrival : Arrival} {attributes : List Attribute} {msk : Option Octets}
    (permitted : phase.permits engine hmacs settings Unit (.note (.answered arrival (.accept attributes msk)))) :
    Custodian engine hmacs settings (world.record (.answered arrival (.accept attributes msk))) beside
      (phase.advance engine settings Unit (.note (.answered arrival (.accept attributes msk))) ()) := by
  obtain ⟨known, grip, gripped, named, ⟨response, parsed, taken⟩, evidence⟩ := permitted
  obtain ⟨owner, same, backed⟩ := turn.own.backed grip gripped
  cases known.symm.trans same
  have member {event : Event Connection} (own : event.session = some grip.id)
      (present : event ∈ (world.view grip.id).history) : event ∈ world.journal :=
    (mem_conversation own).mp present
  have justified : Accepted engine hmacs world.journal arrival msk := by
    rcases evidence with ⟨vouched, server, key, keyed, extracted, rfl⟩ | ⟨server, key, released, given, rfl⟩
    · obtain ⟨examined, looked, verified⟩ := backed.vouched vouched
      refine ⟨grip.id, response, _, named, member rfl backed.started, parsed, backed.claimed _ taken,
        .tls (member rfl (backed.keyed server keyed)) extracted (member rfl looked) ?_, rfl⟩
      unfold identityVerified at verified
      split at verified
      · rename_i absent
        exact .inl absent
      · grind
    · exact ⟨grip.id, response, key, named, member rfl backed.started, parsed, backed.claimed _ taken,
        .teap (member rfl (backed.released server released)) given, rfl⟩
  -- with the answer the Response is no longer in hand, and the conversation is let go
  exact turn.note gripped named justified (by simp) (by simp) (fun _ => rfl) fun _ _ learns => by cases learns

/-- What belongs to no conversation is recorded. -/
theorem aside (outside : event.session = none) (justified : Justified engine hmacs world.journal event)
    (notStart : ∀ id origin, event ≠ .started id origin)
    (keeps : ∀ grip : Grip Connection, grip.learn engine settings Unit (.note event) () = some grip) :
    Custodian engine hmacs settings (world.record event) beside (phase.advance engine settings Unit (.note event) ()) := by
  have views : ∀ id, (world.record event).view id = world.view id := fun id => view_record_other (by simp [outside])
  have sound : Sound engine hmacs (world.record event).journal := ⟨justified, turn.sound⟩
  refine turn.learn rfl sound (startsNothing_cons notStart) (fun id => ?_) (fun label member grip held => ?_) ?_
  · rw [views]
    exact turn.coherent id
  · rw [views]
    exact .refl settings _
  · intro grip learnt arrival _ learns _ backed
    cases (keeps grip).symm.trans learns
    rw [views]
    exact backed

theorem answered {arrival : Arrival} {result : AuthResult}
    (permitted : phase.permits engine hmacs settings Unit (.note (.answered arrival result))) :
    Custodian engine hmacs settings (world.record (.answered arrival result)) beside
      (phase.advance engine settings Unit (.note (.answered arrival result)) ()) := by
  cases result with
  | accept attributes msk => exact turn.accepted permitted
  | _ => exact turn.aside rfl trivial (by simp) fun _ => rfl

theorem drawState {drawn : Option (Block stateLength)}
    (performed : Performs (Option (Block stateLength)) .drawState world drawn after) :
    Custodian engine hmacs settings after beside
      (phase.advance engine settings (Option (Block stateLength)) .drawState drawn) := by
  obtain ⟨offered, answered⟩ := performed
  rcases World.drawState_cases answered with ⟨rfl, rfl⟩ | ⟨state, rfl, unseen, rfl⟩
  · simpa [Phase.advance, Grip.learn] using turn
  · have views : ∀ id, (world.record (.drawn state)).view id = world.view id := by
      intro id
      exact view_record_other (by simp [Event.session])
    have nothing : StartsNothing (world.record (.drawn state)).journal world.journal := startsNothing_cons (by simp)
    -- what was drawn before has another spelling
    have different : ¬ Drawn world.journal (Hex.encode state.octets) := by
      intro ⟨old, seen, spelt⟩
      rw [← Block.ext (Hex.encode_inj spelt)] at seen
      exact unseen seen
    have still : Custodian engine hmacs settings (world.record (.drawn state)) beside phase :=
      turn.step ⟨trivial, turn.sound⟩ nothing.1 (fun id origin started => .inl (nothing.2 id origin started))
        (fun id => views id ▸ turn.coherent id) (fun _ _ grip _ => views grip.id ▸ .refl settings _) (.inr rfl)
        fun grip held => ⟨views grip.id ▸ turn.own.backed grip held, turn.distinct held⟩
    refine { still with
      own := ⟨fun id own => ?_, still.own.backed⟩
      others := fun label member => ⟨(still.others label member).1, fun id own held => ?_, (still.others label member).2.2⟩ }
    · cases own
      exact ⟨⟨state, List.mem_cons_self, rfl⟩, fun origin started =>
        different (turn.named _ origin (nothing.2 _ origin started))⟩
    · cases own
      exact different ((turn.others label member).1.fresh _ held).1

/-- A call becomes the owner of a conversation that had none. -/
theorem enter {arrival : Arrival} (known : phase.arrival = some arrival)
    (sets : Sets id session [event] world after) (about : event.session = some id)
    (justified : Justified engine hmacs world.journal event)
    (starts : ∀ other origin, .started other origin ∈ after.journal →
      .started other origin ∈ world.journal ∨ (phase.drawn = some other ∧ next.drawn = none))
    (unowned : ∀ label ∈ beside, ∀ grip, label.2.grip = some grip → grip.id ≠ id)
    (stays : next.arrival = phase.arrival ∧ (next.drawn = none ∨ next.drawn = phase.drawn))
    (gripped : next.grip = some grip) (same : grip.id = id)
    (entered : ((world.view id).goes event (some session)).Coherent engine settings id ∧
      grip.Backed engine arrival ((world.view id).goes event (some session))) :
    Custodian engine hmacs settings after beside next := by
  have own : ∀ other ∈ [event], other.session = some id := by simpa using about
  have here : after.view id = _ := sets.here own
  have elsewhere : ∀ other, other ≠ id → after.view other = world.view other := fun other => sets.elsewhere own
  have grows : ∀ state, .drawn state ∈ world.journal → .drawn state ∈ after.journal := by
    rw [sets.journal]
    exact fun state => List.mem_cons_of_mem _
  refine turn.step ?_ grows starts (turn.view_coherent elsewhere (here ▸ entered.1)) (fun label member grip held => ?_)
    stays.2 fun held is => ?_
  · rw [sets.journal]
    exact ⟨justified, turn.sound⟩
  · rw [elsewhere grip.id (unowned label member grip held)]
    exact .refl settings _
  · cases gripped.symm.trans is
    rw [same]
    exact ⟨⟨arrival, stays.1.trans known, here ▸ entered.2⟩, unowned⟩

theorem createSession {origin : Origin}
    (permitted : phase.permits engine hmacs settings Unit (.createSession id origin))
    (performed : Performs Unit (.createSession id origin) world () after) :
    Custodian engine hmacs settings after beside ({ phase with grip := some (.creator id), drawn := none }) := by
  obtain ⟨drawn, arrival, known, rfl⟩ := permitted
  have unstarted := (turn.own.fresh id drawn).2
  have new : ∀ origin, .started id origin ∉ (world.view id).history :=
    fun origin member => unstarted origin ((mem_conversation rfl).mp member)
  obtain ⟨session, sets, binding, unasked, unproposed⟩ := createSession_sets performed
  refine turn.enter known sets rfl trivial ?_ ?_ ⟨rfl, .inl rfl⟩ rfl rfl
    ((turn.coherent id).start new binding unasked unproposed)
  · intro other origin started
    rw [sets.journal] at started
    rcases List.mem_cons.mp started with same | old
    · cases same
      exact .inr ⟨drawn, rfl⟩
    · exact .inl old
  · -- whoever owned the conversation would have seen it started
    intro label member grip held same
    obtain ⟨owner, _, owned⟩ := (turn.others label member).1.backed grip held
    rw [← same] at new
    exact new owner.origin owned.started

theorem claimResponse {arrival : Arrival} {identifier : UInt8} {claim : ResponseClaim}
    (permitted : phase.permits engine hmacs settings ResponseClaim (.claimResponse id arrival identifier))
    (performed : Performs ResponseClaim (.claimResponse id arrival identifier) world claim after) :
    Custodian engine hmacs settings after beside
      (phase.advance engine settings ResponseClaim (.claimResponse id arrival identifier) claim) := by
  obtain ⟨free, known⟩ := permitted
  rcases claimResponse_cases performed with ⟨refused, rfl⟩ | ⟨session, rfl, found, bound, awaited, sets⟩
  · have stays : phase.advance engine settings ResponseClaim (.claimResponse id arrival identifier) claim =
        phase := by
      obtain ⟨request, grip, drawn⟩ := phase
      cases free
      cases claim with
      | claimed => exact absurd rfl refused
      | _ => rfl
    rw [stays]
    exact turn
  · have asked : outstanding (world.view id).history = some identifier := by
      rw [← (turn.coherent id).awaits session found, awaited]
    refine turn.enter known sets rfl asked ?_ ?_ ⟨rfl, .inr rfl⟩ rfl rfl
      ((turn.coherent id).claim found bound awaited)
    · intro other origin started
      rw [sets.journal] at started
      exact .inl (by simpa using started)
    · -- an owner would have left no Request outstanding
      intro label member grip held same
      obtain ⟨owner, _, owned⟩ := (turn.others label member).1.backed grip held
      have quiet := owned.quiet
      rw [same, asked] at quiet
      cases quiet

theorem nextIdentifier {drawn : Option UInt8}
    (permitted : phase.permits engine hmacs settings (Option UInt8) (.nextIdentifier id))
    (performed : Performs (Option UInt8) (.nextIdentifier id) world drawn after) :
    Custodian engine hmacs settings after beside
      (phase.advance engine settings (Option UInt8) (.nextIdentifier id) drawn) := by
  obtain ⟨grip, gripped, rfl, settled⟩ := permitted
  rcases nextIdentifier_cases performed with ⟨rfl, _, rfl⟩ | ⟨now, session, rfl, found, sets⟩
  · simpa [Phase.advance, Grip.learn] using turn
  · refine turn.sets gripped rfl sets rfl trivial (by simp) fun arrival _ backed =>
      ⟨?_, fun learnt learns => by cases learns⟩
    exact (turn.coherent grip.id).issue backed settled found rfl rfl rfl rfl

theorem renegotiate {method : EapType} {found : Bool}
    (permitted : phase.permits engine hmacs settings Bool (.updateSession id (.renegotiate method)))
    (performed : Performs Bool (.updateSession id (.renegotiate method)) world found after) :
    Custodian engine hmacs settings after beside
      (phase.advance engine settings Bool (.updateSession id (.renegotiate method)) found) := by
  obtain ⟨grip, gripped, rfl, unfed, untried⟩ := permitted
  obtain ⟨arrival, known, backed⟩ := turn.own.backed grip gripped
  rcases updateSession_cases performed with ⟨rfl, _, rfl⟩ | ⟨now, session, rfl, present, sets⟩
  · simpa [Phase.advance, Grip.learn] using turn
  · refine turn.sets gripped rfl sets rfl ⟨fun member => ?_, fun member => ?_⟩ (by simp) fun arrival known backed => ?_
    · exact backed.untried untried ((mem_conversation rfl).mpr member)
    · exact backed.unfed unfed ((mem_conversation rfl).mpr member)
    · apply And.imp_right fun held learnt learns => Option.some.inj learns ▸ held
      exact backed.renegotiate (turn.coherent grip.id) present rfl rfl (Nat.succ_ne_zero _)

theorem tlsPut {server : EapTlsServer Connection}
    (permitted : phase.permits engine hmacs settings Unit (.tlsPut id server)) :
    Custodian engine hmacs settings { world with tlsSessions := world.tlsSessions.insert id server } beside
      (phase.advance engine settings Unit (.tlsPut id server) ()) := by
  obtain ⟨grip, gripped, rfl, noTeap, sent⟩ := permitted
  refine turn.focus gripped rfl turn.sound (startsNothing_refl _) (fun other different => ?_) fun arrival _ backed => ?_
  · rw [view_tlsPut, if_neg different]
  · obtain ⟨coherent, held⟩ := (turn.coherent grip.id).putTls backed noTeap sent
    rw [view_tlsPut, if_pos rfl]
    exact ⟨coherent, fun learnt learns => Option.some.inj learns ▸ held⟩

theorem teapPut {server : TeapServer Connection}
    (permitted : phase.permits engine hmacs settings Unit (.teapPut id server)) :
    Custodian engine hmacs settings { world with teapSessions := world.teapSessions.insert id server } beside
      (phase.advance engine settings Unit (.teapPut id server) ()) := by
  obtain ⟨grip, gripped, rfl, noTls⟩ := permitted
  refine turn.focus gripped rfl turn.sound (startsNothing_refl _) (fun other different => ?_) fun arrival _ backed => ?_
  · rw [view_teapPut, if_neg different]
  · obtain ⟨coherent, held⟩ := (turn.coherent grip.id).putTeap backed noTls
    rw [view_teapPut, if_pos rfl]
    exact ⟨coherent, fun learnt learns => Option.some.inj learns ▸ held⟩

theorem noted (permitted : phase.permits engine hmacs settings Unit (.note event)) :
    Custodian engine hmacs settings (world.record event) beside (phase.advance engine settings Unit (.note event) ()) := by
  cases event with
  | fed id =>
    obtain ⟨grip, gripped, rfl, _⟩ := permitted
    refine turn.note gripped rfl trivial (by simp) (by simp) (fun _ => rfl) fun learnt arrival learns _ backed => ?_
    cases learns
    have unsettled : grip.feed.Backed engine arrival _ := { backed with unfed := nofun, settled := nofun }
    exact unsettled.note rfl rfl nofun nofun
  | examined id username server =>
    obtain ⟨grip, gripped, rfl, arrival, known, rfl⟩ := permitted
    refine turn.note gripped rfl trivial (by simp) (by simp) (fun _ => rfl) fun learnt owner learns same backed => ?_
    cases learns
    cases known.symm.trans same
    have noted := @Grip.Backed.note _ _ _ _ _ (.examined grip.id arrival.username server) backed rfl rfl nofun nofun
    refine { noted with vouched := fun either => ?_ }
    rcases Bool.or_eq_true_iff.mp either with before | verified
    · exact noted.vouched before
    · exact ⟨server, List.mem_cons_self, verified⟩
  | keyed id server =>
    obtain ⟨grip, gripped, rfl, _⟩ := permitted
    refine turn.note gripped rfl trivial (by simp) (by simp) (fun _ => rfl) fun learnt arrival learns _ backed => ?_
    cases learns
    have noted := @Grip.Backed.note _ _ _ _ _ (.keyed grip.id server) backed rfl rfl nofun nofun
    exact { noted with keyed := fun stored same => Option.some.inj same ▸ List.mem_cons_self }
  | released id server =>
    obtain ⟨grip, gripped, rfl, _⟩ := permitted
    refine turn.note gripped rfl trivial (by simp) (by simp) (fun _ => rfl) fun learnt arrival learns _ backed => ?_
    cases learns
    have noted := @Grip.Backed.note _ _ _ _ _ (.released grip.id server) backed rfl rfl nofun nofun
    exact { noted with released := fun stored same => Option.some.inj same ▸ List.mem_cons_self }
  | answered arrival result => exact turn.answered permitted
  | started _ _ | issued _ _ | claimed _ _ _ | renegotiated _ | drawn _ => cases permitted

theorem quiet (quiet : effect.isQuiet = true) (permitted : phase.permits engine hmacs settings Answer effect)
    (performed : Performs Answer effect world answer after) :
    Custodian engine hmacs settings after beside (phase.advance engine settings Answer effect answer) := by
  have proposes : effect.proposes settings := by
    unfold Effect.proposes
    split
    · exact permitted
    · trivial
  have plain : Effect.enters Answer effect = false := by
    cases effect with
    | drawState | createSession _ _ | claimResponse _ _ _ => cases quiet
    | _ => rfl
  obtain ⟨silent, wanes⟩ : after.journal = world.journal ∧ ∀ id, View.Wanes settings _ _ :=
    quiet_wanes quiet proposes performed
  have coherent := fun id => (turn.coherent id).wane (wanes id)
  apply turn.learn plain
  · rw [silent]
    exact turn.sound
  · rw [silent]
    exact startsNothing_refl _
  · exact coherent
  · exact fun label member grip held => wanes grip.id
  · intro grip learnt arrival _ learns _ backed
    exact learn_quiet quiet performed (coherent grip.id) learns (backed.wane (wanes grip.id))

theorem acted (permitted : phase.permits engine hmacs settings Answer effect)
    (performed : Performs Answer effect world answer after) :
    Custodian engine hmacs settings after beside (phase.advance engine settings Answer effect answer) := by
  cases effect with
  | drawState => exact turn.drawState performed
  | createSession id origin => exact turn.createSession permitted performed
  | updateSession id change =>
    cases change with
    | renegotiate method => exact turn.renegotiate permitted performed
    | _ => exact turn.quiet rfl permitted performed
  | nextIdentifier id => exact turn.nextIdentifier permitted performed
  | claimResponse id arrival identifier => exact turn.claimResponse permitted performed
  | tlsPut id server =>
    cases performed
    exact turn.tlsPut permitted
  | teapPut id server =>
    cases performed
    exact turn.teapPut permitted
  | note event =>
    cases performed
    exact turn.noted permitted
  | _ => exact turn.quiet rfl permitted performed

end Custodian

end Keeping

end UsgRadius.Eap
