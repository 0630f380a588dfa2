import UsgRadius.Proxy.Allowance
import UsgRadius.Proxy.Programs

namespace UsgRadius.Proxy

open Data LinkState

variable {rest entries : List ProxyCacheEntry}

/-! How many copies of one request are written on one connection of a RadSec
link, whatever the interleaving of forwarding, retries and the link task. -/

namespace Course

variable {course : Course}

/-- A retry between two requests, or one that is not to send its request again. -/
def Idle : Course → Prop
  | handling _ => True
  | dropping _ => True
  | deciding _ _ => True
  | keeping _ _ => True
  | _ => False

theorem Idle.plain (idle : course.Idle) :
    course.retries = true ∧ course.key? = none ∧ ∀ extra world, course.Standing extra world := by
  cases course <;> first | exact ⟨rfl, rfl, fun _ _ => trivial⟩ | cases idle

theorem listed_of_forward (forward : course.retries = false) : course.listed = [] := by
  cases course <;> first | rfl | cases forward

structure Proceeds (course next : Course) : Prop where
  retries : course.retries = true
  idle : next.Idle
  listed : next.listed <:+ course.listed

theorem rest_suffix (course : Course) : course.rest <:+ course.listed := by
  cases course <;> first | exact List.suffix_refl _ | exact List.suffix_cons _ _ | exact List.nil_suffix

theorem retries_of_rest {entry : ProxyCacheEntry} (next : course.rest = entry :: rest) : course.retries = true := by
  cases course <;> first | rfl | cases next

theorem counted_proceeds (course : Course) : course.counted = course ∨ course.Proceeds course.counted := by
  by_cases dropped : ∃ rest, course = dropping rest
  · obtain ⟨rest, rfl⟩ := dropped
    exact .inr ⟨rfl, trivial, List.suffix_refl _⟩
  · have suffix := course.rest_suffix
    cases next : course.rest with
    | nil => exact .inl (by cases course <;> simp_all [rest, counted])
    | cons entry rest =>
      rw [next] at suffix
      rw [counted_rest next]
      exact .inr ⟨retries_of_rest next, trivial, suffix⟩

theorem replied_proceeds (course : Course) (sent : Bool) :
    course.replied sent = course ∨ course.Proceeds (course.replied sent) := by
  cases next : course.rest with
  | nil => exact .inl (by simp only [replied, next])
  | cons entry rest =>
    have suffix : rest <:+ course.listed := by
      refine (List.suffix_cons entry rest).trans ?_
      rw [← next]
      exact course.rest_suffix
    rw [replied_rest next]
    cases sent with
    | true | false => exact .inr ⟨retries_of_rest next, trivial, suffix⟩

end Course

section Acting

variable {extra : Nat} {before after : LinkedWorld} {beside : List (Task × Course)} {task : Task}
  {course next : Course} {key : ProxyStateKey}

theorem Listed.suffix {fewer : List ProxyCacheEntry} (listed : Listed before entries) (suffix : fewer <:+ entries) :
    Listed before fewer where
  latest entry member := listed.latest entry (suffix.subset member)
  timedOut entry member := listed.timedOut entry (suffix.subset member)
  distinct := listed.distinct.sublist (suffix.sublist.map _)

section

variable (fair : Fair extra before beside task course)

include fair

theorem Fair.calm (kept : Kept extra after)
    (calmer : Calmer (fun _ => True) before after) (listed : Listed after next.listed)
    (standing : next.Standing extra after) (kind : next.retries = course.retries)
    (key : ∀ key, next.key? = some key → course.key? = some key ∨ ∀ label ∈ beside, label.2.key? ≠ some key) :
    Fair extra after beside task next :=
  fair.step kept calmer (fun _ _ => ⟨fun _ _ => trivial, fun _ _ => .inl trivial⟩) listed standing kind key

theorem Fair.stays (kept : Kept extra after)
    (calmer : Calmer (fun _ => True) before after) : Fair extra after beside task course :=
  fair.calm kept calmer (fair.own.listed.calmer calmer fun _ _ => trivial)
    (fair.own.standing.calmer calmer ⟨fun _ _ => trivial, fun _ _ => .inl trivial⟩) rfl fun _ own => .inl own

theorem Fair.proceeds (kept : Kept extra after)
    (calmer : Calmer (fun _ => True) before after) (proceeds : course.Proceeds next) :
    Fair extra after beside task next := by
  obtain ⟨retries, idle, suffix⟩ := proceeds
  refine fair.calm kept calmer ((fair.own.listed.suffix suffix).calmer calmer fun _ _ => trivial) ?_ ?_ ?_
  · exact idle.plain.2.2 _ _
  · rw [retries, idle.plain.1]
  · intro key own
    rw [idle.plain.2.1] at own
    cases own

theorem Fair.turns (listed : next.listed = course.listed)
    (standing : next.Standing extra before) (kind : next.retries = course.retries) (key : next.key? = course.key?) :
    Fair extra before beside task next :=
  fair.calm fair.kept (.refl _ _) (listed ▸ fair.own.listed) standing kind fun _ own => .inl (key ▸ own)

/-- The request a retry is at is one that a scan has listed, and there is no
other retry. -/
theorem Fair.spared_of_retry
    (retries : course.retries = true) (listed : key ∈ before.timedOut) :
    ∀ label ∈ beside, label.2.Spared (· ≠ key) before := by
  intro label member
  obtain ⟨placed, apart⟩ := fair.others label member
  have forward : label.2.retries = false := placed.kind.trans (apart.retry (fair.own.kind.symm.trans retries))
  refine ⟨fun entry among => ?_, fun own _ => ?_⟩
  · rw [Course.listed_of_forward forward] at among
    cases among
  · by_cases same : own = key
    · subst same
      exact .inr ⟨listed, fair.kept.timedOut own listed⟩
    · exact .inl same

theorem Fair.spared_of_forward
    (own : course.key? = some key) (fresh : key ∉ before.timedOut) :
    ∀ label ∈ beside, label.2.Spared (· ≠ key) before := by
  intro label member
  obtain ⟨placed, apart⟩ := fair.others label member
  refine ⟨fun entry among same => ?_, fun other found => .inl fun same => ?_⟩
  · exact fresh (same ▸ placed.listed.timedOut entry among)
  · exact apart.key key own (same ▸ found)

end

end Acting

variable {generation : Option UInt64} {key : ProxyStateKey} {server : HomeServer}

section Reading

variable {extra : Nat} {world : LinkedWorld} {beside : List (Task × Course)} {task : Task} {course : Course}
  {link : LinkState} {entry : ProxyCacheEntry}

theorem Ready.of_none (none : link.load key = 0) : Ready extra generation key link where
  few := none ▸ Nat.zero_le _
  behind _ := none

theorem Kept.elsewhere (kept : Kept extra world) {arc : Nat} (latest : world.latest entry.proxyState = some entry)
    (present : world.links arc = some link)
    (other : ¬(entry.homeServer.arc = arc ∧ entry.homeServer.transport = .radsec)) :
    link.load entry.proxyState = 0 := by
  have few := kept.loads arc link entry.proxyState present
  rw [latest, allowance, if_neg other] at few
  omega

/-- What `may_resend` lets through is on the connection at most as often as
unrecorded frames may be. -/
theorem Kept.resends (kept : Kept extra world) (latest : world.latest entry.proxyState = some entry)
    (present : world.links entry.homeServer.arc = some link)
    (again : resends (some link.view) entry.sentOnConnection = true) : link.load entry.proxyState ≤ extra := by
  by_cases serving : link.stage = .serving
  · have renewed : entry.sentOnConnection ≠ some link.generation := by
      intro same
      simp [Proxy.resends, view, serving, same] at again
    have few := kept.loads _ link entry.proxyState present
    rw [latest, allowance, if_neg renewed] at few
    split at few <;> omega
  · rw [load, if_neg serving]
    exact Nat.zero_le _

theorem Fair.read (fair : Fair extra world beside task course) (may : course.mayRead server) :
    Fair extra world beside task (course.read ((world.links server.arc).map view)) := by
  cases course with
  | deciding entry rest =>
    cases may
    have latest : world.latest entry.proxyState = some entry := fair.own.listed.latest entry List.mem_cons_self
    cases transport : entry.homeServer.transport with
    | udp =>
      simp only [Course.read, transport]
      refine fair.turns rfl (fun link present => .of_none ?_) rfl rfl
      exact fair.kept.elsewhere latest present fun own => by cases transport.symm.trans own.2
    | radsec =>
      simp only [Course.read, transport]
      split
      next again =>
        refine fair.turns rfl (fun link present => ?_) rfl rfl
        rw [present] at again
        exact fair.kept.resends latest present again
      next => exact fair.turns rfl trivial rfl rfl
  | reading entry rest =>
    cases may
    refine fair.turns rfl (fun link present => ⟨fair.own.standing link present, fun other => ?_⟩) rfl rfl
    rw [present] at other
    exact absurd rfl other
  | _ => exact fair

end Reading

variable {next : Course}

section Queueing

variable {extra arc : Nat} {world after : LinkedWorld} {beside : List (Task × Course)} {task : Task}
  {course : Course} {link : LinkState} {key : ProxyStateKey} {frame : Octets} {entry : ProxyCacheEntry}
  {server : HomeServer}

theorem Ready.room (ready : Ready extra entry.sentOnConnection key link) (own : entry.homeServer.arc = arc)
    (radsec : entry.homeServer.transport = .radsec)
    (recorded : extra = 0 → entry.sentOnConnection = some link.generation) :
    link.load key + 1 ≤ link.allowance extra arc (some entry) := by
  rw [allowance, if_pos ⟨own, radsec⟩]
  by_cases here : entry.sentOnConnection = some link.generation
  · rw [if_pos here]
    have few := ready.few
    omega
  · have none := ready.behind here
    have some : extra ≠ 0 := fun zero => here (recorded zero)
    omega

theorem Kept.send (kept : Kept extra world) (present : world.links arc = some link)
    (carried : frameKey frame = some key) (settled : link.reconnecting = false)
    (room : link.load key + 1 ≤ link.allowance extra arc (world.latest key)) :
    Kept extra (world.setLink arc (link.trySend frame).2) := by
  have sane := trySend_sane (kept.sane arc link present) (carried ▸ Option.some_ne_none key) settled
  refine kept.setLink sane (fun connection other => ?_) fun other => ?_
  · rw [trySend_copies]
    exact kept.copies arc link connection other present
  · rw [allowance_congr trySend_generation]
    by_cases same : other = key
    · subst same
      have more := @trySend_load link other frame
      split at more <;> omega
    · have fewer : (link.trySend frame).2.load other ≤ link.load other :=
        trySend_load_other fun carries => same (Option.some.inj (carries.symm.trans carried))
      exact fewer.trans (kept.loads arc link other present)

theorem Calmer.send (present : world.links arc = some link) (carried : frameKey frame = some key) :
    Calmer (· ≠ key) world (world.setLink arc (link.trySend frame).2) :=
  .setLink present fun _ different =>
    ⟨trySend_load_other fun carries => different (Option.some.inj (carries.symm.trans carried)),
      fun renewed => absurd trySend_generation renewed⟩

theorem Course.Frames.carried (frames : Course.Frames entry server frame)
    (last : lastProxyState entry.originalRequest = some key) : frameKey frame = some key := by
  obtain ⟨encodable, rfl⟩ := Packet.encode_eq_ok.mp frames.encoded
  rw [frameKey_bytes encodable, last]

theorem Fair.queues (fair : Fair extra world beside task course)
    (frames : Course.Frames entry server frame) (latest : world.latest entry.proxyState = some entry)
    (ready : ∀ link, world.links server.arc = some link → Ready extra entry.sentOnConnection entry.proxyState link)
    (recorded : extra = 0 → world.onRecorded server frame = true)
    (settled : (world.links server.arc).all (!·.reconnecting) = true)
    (others : ∀ label ∈ beside, label.2.Spared (· ≠ entry.proxyState) world)
    (listed : next.listed <:+ course.listed) (apart : ∀ listed ∈ next.listed, listed.proxyState ≠ entry.proxyState)
    (standing : ∀ world, next.Standing extra world) (kind : next.retries = course.retries) (key : next.key? = none)
    (answer : Option LinkSendError) (performed : LinkPerforms _ (.linkSend server frame) world answer after) :
    Fair extra after beside task next := by
  have own (found : ProxyStateKey) : next.key? = some found →
      course.key? = some found ∨ ∀ label ∈ beside, label.2.key? ≠ some found := by
    intro impossible
    rw [key] at impossible
    cases impossible
  simp only [LinkPerforms] at performed
  cases present : world.links server.arc with
  | none =>
    rw [present] at performed
    subst performed
    exact fair.calm fair.kept (.refl _ _) (fair.own.listed.suffix listed) (standing _) kind own
  | some link =>
    rw [present] at performed
    obtain ⟨_, rfl⟩ := performed
    have carried := frames.carried (fair.kept.keyed _ _ latest).2.1
    have calmer := Calmer.send present carried
    rw [present] at settled
    refine fair.step (fair.kept.send present carried (Bool.not_eq_true' _ ▸ settled) ?_) calmer others
      ((fair.own.listed.suffix listed).calmer calmer apart) (standing _) kind own
    rw [latest]
    refine (ready link present).room (by rw [frames.own]) (frames.own ▸ frames.radsec) fun zero => ?_
    have same := recorded zero
    rw [LinkedWorld.onRecorded, carried] at same
    simpa [latest, present] using same

theorem Fair.send (fair : Fair extra world beside task course) (may : course.maySend server frame)
    (inTime : course.retries = false → world.inTime frame = true)
    (recorded : extra = 0 → world.onRecorded server frame = true)
    (settled : (world.links server.arc).all (!·.reconnecting) = true) {answer : Option LinkSendError}
    (performed : LinkPerforms _ (.linkSend server frame) world answer after) :
    Fair extra after beside task course.sent := by
  cases course with
  | sending entry =>
    obtain ⟨_, last, standing⟩ := fair.own.standing
    have fresh : entry.proxyState ∉ world.timedOut := by
      have timely := inTime rfl
      rw [LinkedWorld.inTime, may.carried last] at timely
      simpa using timely
    obtain ⟨latest, none⟩ := standing fresh
    exact fair.queues may latest (fun link present => .of_none (none _ link present)) recorded settled
      (fair.spared_of_forward rfl fresh) List.nil_suffix (fun _ none => absurd none List.not_mem_nil) (fun _ => trivial)
      rfl rfl answer performed
  | resending entry rest =>
    have listed := fair.own.listed
    have latest := listed.latest entry List.mem_cons_self
    have distinct := listed.distinct
    rw [Course.listed, List.map_cons, List.nodup_cons] at distinct
    refine fair.queues may latest (fun link present => ?_) recorded settled
      (fair.spared_of_retry rfl (listed.timedOut entry List.mem_cons_self)) (List.suffix_cons entry rest)
      (fun other among same => ?_) (fun _ => trivial) rfl rfl answer performed
    · exact fair.own.standing link (by rwa [← may.own])
    · exact distinct.1 (List.mem_map.mpr ⟨other, among, same⟩)
  | _ => cases may

end Queueing

section Storing

variable {extra : Nat} {world after : LinkedWorld} {beside : List (Task × Course)} {task : Task}
  {course : Course} {entry : ProxyCacheEntry}

theorem Kept.store (kept : Kept extra world) (last : lastProxyState entry.originalRequest = some entry.proxyState)
    (issued : issuedAt entry.proxyState < world.base.counter) (loads : ∀ arc link, world.links arc = some link →
      link.load entry.proxyState ≤ link.allowance extra arc (some entry))
    (stored : (.ok (), after) = world.insert entry) : Kept extra after := by
  obtain rfl := LinkedWorld.insert_ok stored
  obtain ⟨sane, copies, cached, keyed, loadsBefore, timedOut⟩ := kept
  refine ⟨sane, copies, ?_, ?_, ?_, ?_⟩ <;> grind [Function.update_apply]

theorem Calmer.store (stored : (.ok (), after) = world.insert entry) : Calmer (· ≠ entry.proxyState) world after := by
  obtain rfl := LinkedWorld.insert_ok stored
  exact .of_links le_rfl (fun _ listed => listed) (fun key different => Function.update_of_ne different _ _) rfl

theorem latest_stored (stored : (.ok (), after) = world.insert entry) : after.latest entry.proxyState = some entry := by
  obtain rfl := LinkedWorld.insert_ok stored
  exact Function.update_self _ _ _

theorem Fair.storesFirst (fair : Fair extra world beside task (.keyed key))
    (may : (Course.keyed key).mayStore entry) (stored : (.ok (), after) = world.insert entry) :
    Fair extra after beside task (.sending entry) := by
  obtain ⟨rfl, last⟩ := may
  obtain ⟨issued, unused⟩ := fair.own.standing
  have none : ∀ arc link, world.links arc = some link → link.load entry.proxyState = 0 := by
    intro arc link present
    have few := fair.kept.loads arc link entry.proxyState present
    rw [unused, allowance] at few
    omega
  have fresh : entry.proxyState ∉ world.timedOut := fun listed => fair.kept.timedOut _ listed unused
  have kept := fair.kept.store last issued (fun arc link present => none arc link present ▸ Nat.zero_le _) stored
  have calmer := Calmer.store stored
  refine fair.step kept calmer (fair.spared_of_forward rfl fresh) .nil
    ⟨issued.trans_le calmer.counter, last, fun _ => ⟨latest_stored stored, ?_⟩⟩ rfl fun _ own => .inl own
  obtain rfl := LinkedWorld.insert_ok stored
  exact none

theorem Fair.storesAgain {old : ProxyCacheEntry} (fair : Fair extra world beside task course)
    (retries : course.retries = true) (listed : course.listed = old :: rest) (renews : Renews old generation entry)
    (loads : ∀ link, world.links old.homeServer.arc = some link → old.homeServer.transport = .radsec →
      link.load old.proxyState ≤ extra + if generation = some link.generation then 1 else 0)
    (goes : next.listed = rest ∨ next.listed = entry :: rest) (idle : next.retries = true ∧ next.key? = none)
    (standing : next.Standing extra after) (stored : (.ok (), after) = world.insert entry) :
    Fair extra after beside task next := by
  obtain ⟨request, homeServer, proxyState, connection⟩ := renews
  have scanned := fair.own.listed
  rw [listed] at scanned
  have latest := scanned.latest old List.mem_cons_self
  have timedOut : entry.proxyState ∈ world.timedOut := proxyState ▸ scanned.timedOut old List.mem_cons_self
  have distinct := scanned.distinct
  rw [List.map_cons, List.nodup_cons] at distinct
  obtain ⟨_, last, issued⟩ := fair.kept.keyed _ _ latest
  have kept : Kept extra after := by
    refine fair.kept.store (by rw [request, proxyState, last]) (by rwa [proxyState]) ?_ stored
    intro arc link present
    rw [proxyState, allowance, homeServer, connection]
    by_cases own : old.homeServer.arc = arc ∧ old.homeServer.transport = .radsec
    · rw [if_pos own]
      exact loads link (own.1 ▸ present) own.2
    · rw [if_neg own, fair.kept.elsewhere latest present own]
  have calmer := Calmer.store stored
  have rest : Listed after rest := by
    refine (scanned.suffix (List.suffix_cons old rest)).calmer calmer fun other among same => ?_
    exact distinct.1 (List.mem_map.mpr ⟨other, among, same.trans proxyState⟩)
  refine fair.step kept calmer (fair.spared_of_retry retries timedOut) ?_ standing (idle.1.trans retries.symm) ?_
  · rcases goes with same | same
    · rw [same]
      exact rest
    · rw [same]
      refine ⟨List.forall_mem_cons.mpr ⟨latest_stored stored, rest.latest⟩,
        List.forall_mem_cons.mpr ⟨calmer.timedOut _ timedOut, rest.timedOut⟩, ?_⟩
      rw [List.map_cons, List.nodup_cons, proxyState]
      exact distinct
  · intro key own
    rw [idle.2] at own
    cases own

theorem Fair.insert (fair : Fair extra world beside task course) (may : course.mayStore entry)
    {answer : Except ProxyError Unit} (stored : (answer, after) = world.insert entry) :
    Fair extra after beside task (course.stored entry answer) := by
  cases answer with
  | error reason =>
    obtain rfl := LinkedWorld.insert_error stored
    cases course with
    | keyed key => exact fair.calm fair.kept (.refl _ _) .nil trivial rfl (fun _ own => nomatch own)
    | storing old generation rest =>
      exact fair.proceeds fair.kept (.refl _ _) ⟨rfl, trivial, List.suffix_cons old rest⟩
    | keeping old rest => exact fair.proceeds fair.kept (.refl _ _) ⟨rfl, trivial, List.suffix_cons old rest⟩
    | _ => cases may
  | ok _ =>
    cases course with
    | keyed key => exact fair.storesFirst may stored
    | storing old generation rest =>
      have ready := fair.own.standing
      refine fair.storesAgain rfl rfl may (fun link present _ => ?_) (.inr rfl) ⟨rfl, rfl⟩ ?_ stored
      · exact (ready link present).few.trans (Nat.le_add_right _ _)
      · intro link present
        rw [may.homeServer] at present
        rw [may.proxyState, may.connection]
        obtain rfl := LinkedWorld.insert_ok stored
        exact ready link present
    | keeping old rest =>
      refine fair.storesAgain rfl rfl may (fun link present radsec => ?_) (.inl rfl) ⟨rfl, rfl⟩ trivial stored
      have few := fair.kept.loads _ link old.proxyState present
      rwa [fair.own.listed.latest old List.mem_cons_self, allowance, if_pos ⟨rfl, radsec⟩] at few
    | _ => cases may

end Storing

variable {Answer : Type} {effect : Effect Answer} {answer : Answer}

section Others

variable {extra : Nat} {world after : LinkedWorld} {beside : List (Task × Course)} {task : Task}
  {course next : Course}

theorem Fair.generates (fair : Fair extra world beside task .opening)
    (small : world.base.counter < 2 ^ 64) (performed : LinkPerforms _ .nextProxyState world key after) :
    Fair extra after beside task (.keyed key) := by
  obtain ⟨_, ⟨⟨nanos, rfl⟩, rfl⟩, rfl⟩ := performed
  have issued := issuedAt_proxyStateKey nanos small
  have kept := fair.kept
  refine fair.calm ⟨kept.sane, kept.copies, kept.cached, fun key entry latest => ?_, kept.loads, kept.timedOut⟩
    (.of_links (Nat.le_succ _) (fun _ listed => listed) (fun _ _ => rfl) rfl)
    .nil ⟨?_, ?_⟩ rfl fun key own => .inr fun label member other => ?_
  · obtain ⟨own, last, earlier⟩ := kept.keyed key entry latest
    exact ⟨own, last, earlier.trans (Nat.lt_succ_self _)⟩
  · rw [issued]
    exact Nat.lt_succ_self _
  · refine Option.eq_none_iff_forall_ne_some.mpr fun entry latest => ?_
    have earlier := (kept.keyed _ entry latest).2.2
    omega
  · have earlier := (fair.others label member).1.standing.issued other
    rw [← Option.some.inj own] at earlier
    omega

theorem Fair.scans {timeout : Nat} (fair : Fair extra world beside task .ticking)
    (performed : LinkPerforms _ (.cacheTimedOut timeout) world entries after) :
    Fair extra after beside task (.handling entries) := by
  obtain ⟨⟨⟨now, listed⟩, _⟩, rfl⟩ := performed
  have kept := fair.kept
  have keyed : Keyed world.base.cache := fun key entry found =>
    (kept.keyed key entry (kept.cached key entry found)).imp_right And.left
  obtain ⟨found, distinct⟩ := keyed.listed listed
  have latest : ∀ entry ∈ entries, world.latest entry.proxyState = some entry :=
    fun entry member => kept.cached _ entry (found entry member)
  refine fair.calm ⟨kept.sane, kept.copies, kept.cached, kept.keyed, kept.loads, fun key member => ?_⟩
    (.of_links le_rfl (fun _ listed => List.mem_append_right _ listed) (fun _ _ => rfl) rfl)
    ⟨latest, fun entry member => List.mem_append_left _ (List.mem_map_of_mem member), distinct⟩ trivial rfl
    (fun _ own => nomatch own)
  rcases List.mem_append.mp member with added | old
  · grind
  · exact kept.timedOut key old

theorem Fair.resets {generation : UInt64} {answer : Unit} (fair : Fair extra world beside task course)
    (performed : LinkPerforms _ (.linkReset server generation) world answer after) :
    Fair extra after beside task course := by
  simp only [LinkPerforms] at performed
  cases present : world.links server.arc with
  | none =>
    rw [present] at performed
    rwa [performed]
  | some link =>
    rw [present] at performed
    obtain rfl := performed
    obtain ⟨reset, same⟩ : ∃ reset, link.requestReset generation = { link with reset } := by
      unfold requestReset
      repeat' split
      all_goals exact ⟨_, rfl⟩
    have sane := fair.kept.sane _ link present
    rw [same]
    exact fair.stays
      (fair.kept.setLink ⟨sane.tagged, sane.past, sane.fresh, sane.empty⟩
        (fun connection key => fair.kept.copies _ link connection key present)
        fun key => fair.kept.loads _ link key present)
      (.setLink present fun _ _ => ⟨le_rfl, fun other => absurd rfl other⟩)

theorem Fair.ordinary (fair : Fair extra world beside task course)
    (performed : LinkPerforms Answer effect world answer after) (ordinary : Effect.Ordinary Answer effect)
    (goes : next = course ∨ course.Proceeds next) : Fair extra after beside task next := by
  have quiet := ordinary_quiet ordinary performed
  rcases goes with rfl | proceeds
  · exact fair.stays (fair.kept.quiet quiet) (quiet.calmer _)
  · exact fair.proceeds (fair.kept.quiet quiet) (quiet.calmer _) proceeds

end Others

section Runs

variable {prompt : Bool} {extra : Nat} {world after : LinkedWorld} {beside : List (Task × Course)}
  {task : Task} {course : Course} {threads : List (Thread Effect Fault Task)}

theorem Fair.performs (fair : Fair (!prompt).toNat world beside task course)
    (permits : course.permits Answer effect) (allowed : orderly prompt ⟨world, threads⟩ task Answer effect = true)
    (performed : LinkPerforms Answer effect world answer after) :
    Fair (!prompt).toNat after beside task (course.advance Answer effect answer) := by
  cases effect with
  | nextProxyState =>
    cases permits
    exact fair.generates (of_decide_eq_true (Bool.and_eq_true_iff.mp allowed).1) performed
  | cacheInsert entry => exact fair.insert permits performed
  | cacheTimedOut timeout =>
    cases permits
    exact fair.scans performed
  | linkReset server generation => exact fair.resets performed
  | link server =>
    obtain ⟨rfl, rfl⟩ := performed
    exact fair.read permits
  | linkSend server frame =>
    obtain ⟨timely, settled⟩ := Bool.and_eq_true_iff.mp allowed
    obtain ⟨inTime, recorded⟩ := Bool.and_eq_true_iff.mp timely
    refine fair.send permits (fun forward => ?_) (fun zero => ?_) settled performed
    · rwa [← fair.own.kind, forward] at inTime
    · cases prompt with
      | false => cases zero
      | true => exact recorded
  | recordTimeout server => exact fair.ordinary performed trivial course.counted_proceeds
  | nasSend reply => exact fair.ordinary performed trivial (course.replied_proceeds answer)
  | _ => exact fair.ordinary performed trivial (.inl rfl)

theorem fair_stable (digests : Digests) (settings : Settings) (prompt : Bool) :
    Stable (linkedTasks digests settings) (orderly prompt) sendings Task.opens
      (Shared (Kept (!prompt).toNat) (Placed (!prompt).toNat) Apart) := by
  apply Shared.stable
  · exact Apart.symm
  · exact fun task => (tasks_conduct digests settings task).right
  · intro world labels task _ (may : (!task.isRetry || (labels.map Prod.fst).all (!·.isRetry)) = true)
    have opens : task.opens.listed = [] ∧ task.opens.key? = none ∧ task.opens.retries = task.isRetry ∧
        task.opens.Standing (!prompt).toNat world := by
      cases task <;> exact ⟨rfl, rfl, rfl, trivial⟩
    obtain ⟨listed, key, kind, standing⟩ := opens
    refine ⟨⟨listed ▸ .nil, standing, kind⟩, fun label member => ⟨fun retry => ?_, fun own found => ?_⟩⟩
    · grind
    · cases key.symm.trans found
  · intro world threads left task course right Answer effect answer after _ kept own others permits allowed performed
    obtain ⟨middle, done, moved⟩ := performed
    have fair : Fair (!prompt).toNat world (left ++ right) task course := ⟨kept, own, others⟩
    have acted := (fair.performs permits allowed done).linkSteps moved
    exact ⟨acted.kept, acted.own, acted.others⟩

theorem kept_initial (extra : Nat) (maxEntries : UInt64) (capacity : Nat → Option Nat) :
    Kept extra (.initial maxEntries capacity) := by
  have started {arc : Nat} {link : LinkState}
      (present : (LinkedWorld.initial maxEntries capacity).links arc = some link) :
      ∃ room, link = .initial room := by
    obtain ⟨room, _, rfl⟩ := Option.map_eq_some_iff.mp present
    exact ⟨room, rfl⟩
  refine ⟨?_, ?_, nofun, nofun, ?_, nofun⟩
  · intro arc link present
    obtain ⟨room, rfl⟩ := started present
    exact initial_sane room
  · intro arc link connection key present
    obtain ⟨room, rfl⟩ := started present
    exact Nat.zero_le _
  · intro arc link key present
    obtain ⟨room, rfl⟩ := started present
    exact Nat.zero_le _

end Runs

/-- Provided forwarded frames are queued before their entries time out, and none
into the queue drained for a new connection, one request is written at most
twice on one connection, and at most once if no reconnect falls between reading
the connection of a frame and queueing it. -/
theorem copies_bounded (digests : Digests) (settings : Settings) (prompt : Bool) (maxEntries : UInt64)
    (capacity : Nat → Option Nat) {pool : Pool Effect Fault Task LinkedWorld}
    (run : (linkedTasks digests settings).Reaches (orderly prompt) ⟨.initial maxEntries capacity, []⟩ pool)
    {arc : Nat} {link : LinkState} (present : pool.world.links arc = some link) :
    (∀ record ∈ link.written, ∃ key, frameKey record.2 = some key) ∧
      ∀ connection key, link.copies connection key ≤ if prompt then 1 else 2 := by
  have started : Holds sendings (Shared (Kept (!prompt).toNat) (Placed (!prompt).toNat) Apart)
      (⟨.initial maxEntries capacity, []⟩ : Pool Effect Fault Task LinkedWorld) :=
    ⟨[], .nil, kept_initial _ maxEntries capacity, fun _ none => absurd none List.not_mem_nil, .nil⟩
  obtain ⟨_, _, kept, _⟩ := (fair_stable digests settings prompt).reaches started run
  refine ⟨fun record written => ?_, fun connection key => ?_⟩
  · have tagged := (kept.sane arc link present).tagged record.2
      (List.mem_append_right _ (List.mem_map_of_mem written))
    exact Option.ne_none_iff_exists'.mp tagged
  · have few := kept.copies arc link connection key present
    cases prompt with
    | false | true => exact few

def sampleSettings : Settings where
  config := sampleConfig
  timeout := 5
  ttl := 100

def connects : List LinkMove :=
  [.drainOutbound, .drainResets, .count, .connect]

/-- A turn of a task, and the steps that a link takes after it. -/
abbrev LinkTurn := Turn Task (Surroundings × Nat × List LinkMove)

/-- A request is forwarded over a link. The link takes steps after its connection
is read, after it is seen connected, and after the frame is queued. -/
def forwarding (read seen queued : List LinkMove) : List LinkTurn :=
  let turn (moves : List LinkMove) := .act 0 (calm, 0, moves)
  [.start (.forward sampleEntry.originalRequest sampleEntry.originalSource radsecServer [1, 2]),
    turn connects, turn [], turn read, turn [], turn [], turn [], turn seen, turn queued, .finish 0]

/-- It has timed out and is sent again. -/
def repeating (time : Nat) (read queued : List LinkMove) : List LinkTurn :=
  let turn (moves : List LinkMove) : LinkTurn := .act 0 ({ calm with time }, 0, moves)
  [.start .retry] ++ List.replicate 4 (turn []) ++ [turn read] ++ List.replicate 4 (turn []) ++ [turn queued, .finish 0]

theorem follow_copies {allowed : Guard Effect Fault Task LinkedWorld} {counts : LinkState → Bool}
    {turns : List LinkTurn}
    (found : (follow (linkedTasks .checksum sampleSettings) allowed performMoving turns
      ⟨.initial 10 fun _ => some 4, []⟩).any (fun pool => (pool.world.links 0).any counts) = true) :
    ∃ pool link, (linkedTasks .checksum sampleSettings).Reaches allowed
      ⟨.initial 10 fun _ => some 4, []⟩ pool ∧ pool.world.links 0 = some link ∧ counts link = true := by
  obtain ⟨pool, followed, facts⟩ := (Option.any_eq_true _ _).mp found
  obtain ⟨link, present, counted⟩ := (Option.any_eq_true _ _).mp facts
  exact ⟨pool, link, follow_reaches performMoving_runs followed, present, counted⟩

/-- A reconnect between the record and the queueing makes two copies on one
connection; a later one makes a copy on each. -/
theorem resending_bounded :
    (∃ pool link, (linkedTasks .checksum sampleSettings).Reaches (orderly false)
        ⟨.initial 10 fun _ => some 4, []⟩ pool ∧ pool.world.links 0 = some link ∧
      link.copies 2 (proxyStateKey 0 0) = 2 ∧ ∀ connection key, link.copies connection key ≤ 2) ∧
    ∃ pool link, (linkedTasks .checksum sampleSettings).Reaches (orderly true)
        ⟨.initial 10 fun _ => some 4, []⟩ pool ∧ pool.world.links 0 = some link ∧
      (link.copies 1 (proxyStateKey 0 0) = 1 ∧ link.copies 2 (proxyStateKey 0 0) = 1) ∧
      ∀ connection key, link.copies connection key ≤ 1 := by
  obtain ⟨pool, link, run, present, twice⟩ := @follow_copies (orderly false)
    (fun link => link.copies 2 (proxyStateKey 0 0) = 2)
    (forwarding (.lose :: .discard :: connects) [] [.write] ++ repeating 10 [] [.write]) (by decide +kernel)
  obtain ⟨later, other, prompt, stored, each⟩ := @follow_copies (orderly true)
    (fun link => link.copies 1 (proxyStateKey 0 0) = 1 ∧ link.copies 2 (proxyStateKey 0 0) = 1)
    (forwarding [] [] (.write :: .lose :: .discard :: connects) ++ repeating 10 [] [.write]) (by decide +kernel)
  exact ⟨⟨pool, link, run, present, of_decide_eq_true twice,
      (copies_bounded .checksum sampleSettings false 10 _ run present).2⟩,
    later, other, prompt, stored, of_decide_eq_true each,
    (copies_bounded .checksum sampleSettings true 10 _ prompt stored).2⟩

/-- The link is seen connected, is lost, and drains its queue for the next
connection; then the frame is queued, and goes out on that connection although
the one before is recorded. A retry that reads the link before the new connection
is counted records the old one too, and the next retry sends a third copy. With
no reconnect between the record and the queueing there are two. -/
theorem reconnecting_exceeds :
    (∃ pool link, (linkedTasks .checksum sampleSettings).Reaches (timely false)
        ⟨.initial 10 fun _ => some 4, []⟩ pool ∧ pool.world.links 0 = some link ∧
      link.copies 2 (proxyStateKey 0 0) = 3) ∧
    ∃ pool link, (linkedTasks .checksum sampleSettings).Reaches (timely true)
        ⟨.initial 10 fun _ => some 4, []⟩ pool ∧ pool.world.links 0 = some link ∧
      link.copies 2 (proxyStateKey 0 0) = 2 := by
  obtain ⟨pool, link, run, present, thrice⟩ := @follow_copies (timely false)
    (fun link => link.copies 2 (proxyStateKey 0 0) = 3)
    (forwarding [] [.lose, .discard, .drainOutbound, .drainResets] [] ++
      repeating 10 [.count, .connect, .write] [.write] ++ repeating 20 [] [.write]) (by decide +kernel)
  obtain ⟨later, other, prompt, stored, twice⟩ := @follow_copies (timely true)
    (fun link => link.copies 2 (proxyStateKey 0 0) = 2)
    (forwarding [] [.lose, .discard, .drainOutbound, .drainResets] [.count, .connect, .write] ++
      repeating 10 [] [.write]) (by decide +kernel)
  exact ⟨⟨pool, link, run, present, of_decide_eq_true thrice⟩, later, other, prompt, stored, of_decide_eq_true twice⟩

end UsgRadius.Proxy
