import UsgRadius.Proxy.Courses
import UsgRadius.Proxy.Progress

namespace UsgRadius.Proxy

open Data

/-! What relates the entry of a request, the tasks at work on it and the frames
of it on each link, and what keeps that. -/

def linkedTasks (digests : Digests) (settings : Settings) : System Effect Fault Task LinkedWorld where
  start := (tasks digests settings).start
  mayStart := (tasks digests settings).mayStart
  step := LinksRun

namespace LinkedWorld

/-- No scan has listed the request of a frame yet. -/
def inTime (world : LinkedWorld) (frame : Octets) : Bool :=
  match frameKey frame with
  | none => true
  | some key => key ∉ world.timedOut

def onRecorded (world : LinkedWorld) (server : HomeServer) (frame : Octets) : Bool :=
  match frameKey frame with
  | none => true
  | some key => (world.latest key).bind (·.sentOnConnection) = (world.links server.arc).map LinkState.generation

end LinkedWorld

/-- A forwarded frame is queued before its entry first times out; with `prompt`,
no reconnect falls between reading the connection of a frame and queueing it.
Also, the counter of Proxy-State keys has not wrapped around. -/
def timely (prompt : Bool) : Guard Effect Fault Task LinkedWorld := fun pool task _ effect =>
  match effect with
  | .nextProxyState => decide (pool.world.base.counter < 2 ^ 64)
  | .linkSend server frame =>
    (task.isRetry || pool.world.inTime frame) && (!prompt || pool.world.onRecorded server frame)
  | _ => true

/-- As `timely`, and no frame is put into a queue that has been drained for a new
connection before that connection is shown. -/
def orderly (prompt : Bool) : Guard Effect Fault Task LinkedWorld := fun pool task Answer effect =>
  timely prompt pool task Answer effect &&
    match effect with
    | .linkSend server _ => (pool.world.links server.arc).all (!·.reconnecting)
    | _ => true

/-- How often a request may be on the present connection of the link `arc`: once
if it is recorded there, and `extra` times more. -/
def LinkState.allowance (link : LinkState) (extra arc : Nat) : Option ProxyCacheEntry → Nat
  | none => 0
  | some entry =>
    if entry.homeServer.arc = arc ∧ entry.homeServer.transport = .radsec then
      extra + if entry.sentOnConnection = some link.generation then 1 else 0
    else
      0

/-- One more frame may be queued under the connection read for it. -/
structure Ready (extra : Nat) (generation : Option UInt64) (key : ProxyStateKey) (link : LinkState) : Prop where
  few : link.load key ≤ extra
  behind : generation ≠ some link.generation → link.load key = 0

structure Listed (world : LinkedWorld) (entries : List ProxyCacheEntry) : Prop where
  latest : ∀ entry ∈ entries, world.latest entry.proxyState = some entry
  timedOut : ∀ entry ∈ entries, entry.proxyState ∈ world.timedOut
  distinct : (entries.map ProxyCacheEntry.proxyState).Nodup

theorem Listed.nil {world : LinkedWorld} : Listed world [] where
  latest _ member := absurd member List.not_mem_nil
  timedOut _ member := absurd member List.not_mem_nil
  distinct := .nil

namespace Course

/-- The entries of its scan that a retry has not finished with. -/
def listed : Course → List ProxyCacheEntry
  | handling rest => rest
  | dropping rest => rest
  | deciding entry rest => entry :: rest
  | reading entry rest => entry :: rest
  | storing entry _ rest => entry :: rest
  | keeping entry rest => entry :: rest
  | resending entry rest => entry :: rest
  | _ => []

/-- The key a forwarding task has not sent yet. -/
def key? : Course → Option ProxyStateKey
  | keyed key => some key
  | sending entry => some entry.proxyState
  | _ => none

def retries : Course → Bool
  | opening => false
  | keyed _ => false
  | sending _ => false
  | resting => false
  | _ => true

/-- What holds of the request a task is at. A forwarded request that a scan has
listed is left to the retry manager. -/
def Standing (extra : Nat) (world : LinkedWorld) : Course → Prop
  | keyed key => issuedAt key < world.base.counter ∧ world.latest key = none
  | sending entry => issuedAt entry.proxyState < world.base.counter ∧
      lastProxyState entry.originalRequest = some entry.proxyState ∧
      (entry.proxyState ∉ world.timedOut → world.latest entry.proxyState = some entry ∧
        ∀ arc link, world.links arc = some link → link.load entry.proxyState = 0)
  | reading entry _ => ∀ link, world.links entry.homeServer.arc = some link → link.load entry.proxyState ≤ extra
  | storing entry generation _ => ∀ link, world.links entry.homeServer.arc = some link →
      Ready extra generation entry.proxyState link
  | resending entry _ => ∀ link, world.links entry.homeServer.arc = some link →
      Ready extra entry.sentOnConnection entry.proxyState link
  | _ => True

end Course

/-- The links and the entries of a state, whatever its tasks are at. -/
structure Kept (extra : Nat) (world : LinkedWorld) : Prop where
  sane : ∀ arc link, world.links arc = some link → link.Sane
  copies : ∀ arc link connection key, world.links arc = some link → link.copies connection key ≤ 1 + extra
  cached : ∀ key entry, world.base.cache.lookup key = some entry → world.latest key = some entry
  keyed : ∀ key entry, world.latest key = some entry → entry.proxyState = key ∧
    lastProxyState entry.originalRequest = some key ∧ issuedAt key < world.base.counter
  loads : ∀ arc link key, world.links arc = some link → link.load key ≤ link.allowance extra arc (world.latest key)
  timedOut : ∀ key ∈ world.timedOut, world.latest key ≠ none

/-- Two tasks that do not get in each other's way. -/
structure Apart (left right : Task × Course) : Prop where
  retry : left.1.isRetry = true → right.1.isRetry = false
  key : ∀ key, left.2.key? = some key → right.2.key? ≠ some key

theorem Apart.symm {left right : Task × Course} (apart : Apart left right) : Apart right left where
  retry := by
    intro isRetry
    cases other : left.1.isRetry with
    | false => rfl
    | true => exact absurd isRetry (by rw [apart.retry other]; exact Bool.false_ne_true)
  key := fun key found other => apart.key key other found

structure Placed (extra : Nat) (world : LinkedWorld) (label : Task × Course) : Prop where
  listed : Listed world label.2.listed
  standing : label.2.Standing extra world
  kind : label.2.retries = label.1.isRetry

/-- A task at its course, and the tasks `beside` it. -/
structure Fair (extra : Nat) (world : LinkedWorld) (beside : List (Task × Course)) (task : Task) (course : Course) :
    Prop where
  kept : Kept extra world
  own : Placed extra world (task, course)
  others : ∀ label ∈ beside, Placed extra world label ∧ Apart (task, course) label

/-! ## Changes that leave a set of keys alone -/

/-- For the keys in `spared`, nothing is stored and nothing queued. -/
structure Calmer (spared : ProxyStateKey → Prop) (before after : LinkedWorld) : Prop where
  counter : before.base.counter ≤ after.base.counter
  timedOut : ∀ key ∈ before.timedOut, key ∈ after.timedOut
  latest : ∀ key, spared key → after.latest key = before.latest key
  links : ∀ arc next, after.links arc = some next → ∃ link, before.links arc = some link ∧
    ∀ key, spared key → next.load key ≤ link.load key ∧ (next.generation ≠ link.generation → next.load key = 0)

/-- A task that has to do with spared keys only. -/
structure Course.Spared (spared : ProxyStateKey → Prop) (world : LinkedWorld) (course : Course) : Prop where
  listed : ∀ entry ∈ course.listed, spared entry.proxyState
  own : ∀ key, course.key? = some key → spared key ∨ (key ∈ world.timedOut ∧ world.latest key ≠ none)

section Calm

variable {extra : Nat} {spared : ProxyStateKey → Prop} {before after : LinkedWorld} {course : Course}
  {generation : Option UInt64} {key : ProxyStateKey}

theorem Listed.calmer {entries : List ProxyCacheEntry} (listed : Listed before entries)
    (calmer : Calmer spared before after) (touched : ∀ entry ∈ entries, spared entry.proxyState) :
    Listed after entries where
  latest entry member := (calmer.latest _ (touched entry member)).trans (listed.latest entry member)
  timedOut entry member := calmer.timedOut _ (listed.timedOut entry member)
  distinct := listed.distinct

theorem Ready.calmer {link next : LinkState} (ready : Ready extra generation key link)
    (fewer : next.load key ≤ link.load key) (renewed : next.generation ≠ link.generation → next.load key = 0) :
    Ready extra generation key next where
  few := fewer.trans ready.few
  behind := by
    intro other
    by_cases same : next.generation = link.generation
    · have none := ready.behind (same ▸ other)
      omega
    · exact renewed same

theorem Calmer.ready {arc : Nat} (calmer : Calmer spared before after) (own : spared key)
    (ready : ∀ link, before.links arc = some link → Ready extra generation key link) (next : LinkState)
    (present : after.links arc = some next) : Ready extra generation key next := by
  obtain ⟨link, earlier, less⟩ := calmer.links arc next present
  obtain ⟨fewer, renewed⟩ := less key own
  exact (ready link earlier).calmer fewer renewed

theorem Course.Standing.calmer (standing : course.Standing extra before) (calmer : Calmer spared before after)
    (touched : course.Spared spared before) : course.Standing extra after := by
  cases course with
  | keyed key =>
    rcases touched.own key rfl with own | ⟨_, stored⟩
    · exact ⟨standing.1.trans_le calmer.counter, (calmer.latest key own).trans standing.2⟩
    · exact absurd standing.2 stored
  | sending entry =>
    refine ⟨standing.1.trans_le calmer.counter, standing.2.1, fun inTime => ?_⟩
    have before := standing.2.2 (fun listed => inTime (calmer.timedOut _ listed))
    rcases touched.own _ rfl with own | ⟨listed, _⟩
    · refine ⟨(calmer.latest _ own).trans before.1, fun arc next present => ?_⟩
      obtain ⟨link, earlier, less⟩ := calmer.links arc next present
      have none := before.2 arc link earlier
      have fewer := (less _ own).1
      omega
    · exact absurd (calmer.timedOut _ listed) inTime
  | reading entry rest =>
    intro next present
    obtain ⟨link, earlier, less⟩ := calmer.links _ next present
    exact (less _ (touched.listed entry List.mem_cons_self)).1.trans (standing link earlier)
  | storing entry generation rest
  | resending entry rest => exact calmer.ready (touched.listed entry List.mem_cons_self) standing
  | _ => trivial

theorem Course.Standing.issued (standing : course.Standing extra before) (own : course.key? = some key) :
    issuedAt key < before.base.counter := by
  cases course with
  | keyed held | sending entry =>
    cases own
    exact standing.1
  | _ => cases own

theorem Placed.calmer {label : Task × Course} (placed : Placed extra before label) (calmer : Calmer spared before after)
    (touched : label.2.Spared spared before) : Placed extra after label :=
  ⟨placed.listed.calmer calmer touched.listed, placed.standing.calmer calmer touched, placed.kind⟩

theorem Fair.step {beside : List (Task × Course)} {task : Task} {next : Course}
    (fair : Fair extra before beside task course) (kept : Kept extra after) (calmer : Calmer spared before after)
    (others : ∀ label ∈ beside, label.2.Spared spared before) (listed : Listed after next.listed)
    (standing : next.Standing extra after) (kind : next.retries = course.retries)
    (key : ∀ key, next.key? = some key → course.key? = some key ∨ ∀ label ∈ beside, label.2.key? ≠ some key) :
    Fair extra after beside task next := by
  refine ⟨kept, ⟨listed, standing, kind.trans fair.own.kind⟩, fun label member => ?_⟩
  obtain ⟨placed, apart⟩ := fair.others label member
  refine ⟨placed.calmer calmer (others label member), apart.retry, fun found own => ?_⟩
  rcases key found own with same | none
  · exact apart.key found same
  · exact none label member

end Calm

section Links

variable {extra arc : Nat} {spared : ProxyStateKey → Prop} {world after : LinkedWorld} {link next : LinkState}
  {beside : List (Task × Course)} {task : Task} {course : Course}

theorem LinkState.allowance_le (link : LinkState) (extra arc : Nat) (latest : Option ProxyCacheEntry) :
    link.allowance extra arc latest ≤ 1 + extra := by
  cases latest with
  | none => exact Nat.zero_le _
  | some entry =>
    rw [allowance]
    split
    · split <;> omega
    · exact Nat.zero_le _

theorem LinkState.allowance_congr (same : next.generation = link.generation) (latest : Option ProxyCacheEntry) :
    next.allowance extra arc latest = link.allowance extra arc latest := by
  cases latest with
  | none => rfl
  | some entry => simp only [allowance, same]

theorem Calmer.of_links (counter : world.base.counter ≤ after.base.counter)
    (timedOut : ∀ key ∈ world.timedOut, key ∈ after.timedOut)
    (latest : ∀ key, spared key → after.latest key = world.latest key)
    (links : after.links = world.links) : Calmer spared world after :=
  ⟨counter, timedOut, latest, fun _ next present =>
    ⟨next, links ▸ present, fun _ _ => ⟨le_rfl, fun other => absurd rfl other⟩⟩⟩

theorem Calmer.refl (spared : ProxyStateKey → Prop) (world : LinkedWorld) : Calmer spared world world :=
  .of_links le_rfl (fun _ listed => listed) (fun _ _ => rfl) rfl

theorem LinkedWorld.links_setLink (other : Nat) :
    (world.setLink arc next).links other = if other = arc then some next else world.links other :=
  Function.update_apply ..

theorem Calmer.setLink (present : world.links arc = some link)
    (less : ∀ key, spared key →
      next.load key ≤ link.load key ∧ (next.generation ≠ link.generation → next.load key = 0)) :
    Calmer spared world (world.setLink arc next) :=
  ⟨le_rfl, fun _ listed => listed, fun _ _ => rfl, by
    intro other found stored
    rw [LinkedWorld.links_setLink] at stored
    grind⟩

theorem Kept.setLink (kept : Kept extra world) (sane : next.Sane)
    (copies : ∀ connection key, next.copies connection key ≤ 1 + extra)
    (loads : ∀ key, next.load key ≤ next.allowance extra arc (world.latest key)) :
    Kept extra (world.setLink arc next) := by
  obtain ⟨saneBefore, copiesBefore, cached, keyed, loadsBefore, timedOut⟩ := kept
  refine ⟨?_, ?_, cached, keyed, ?_, timedOut⟩ 
  all_goals
    simp only [LinkedWorld.links_setLink, show (world.setLink arc next).latest = world.latest from rfl]
    grind

theorem Kept.moved (kept : Kept extra world) (present : world.links arc = some link) (moved : link.Moved next) :
    Kept extra (world.setLink arc next) := by
  have sane := kept.sane arc link present
  refine kept.setLink (moved.sane sane) (fun connection key => ?_) fun key => ?_
  · refine ((moved.calms sane key).copies connection).trans (max_le (kept.copies arc link connection key present) ?_)
    exact (kept.loads arc link key present).trans (link.allowance_le extra arc _)
  · have calms := moved.calms sane key
    by_cases same : next.generation = link.generation
    · rw [LinkState.allowance_congr same]
      exact calms.load.trans (kept.loads arc link key present)
    · rw [calms.renewed same]
      exact Nat.zero_le _

theorem Fair.linkStep (fair : Fair extra world beside task course) (step : LinkStep world after) :
    Fair extra after beside task course := by
  obtain ⟨arc, link, move, next, present, taken, rfl⟩ := step
  have moved := LinkState.moved taken
  have sane := fair.kept.sane arc link present
  have calmer : Calmer (fun _ => True) world (world.setLink arc next) :=
    .setLink present fun key _ => ⟨(moved.calms sane key).load, (moved.calms sane key).renewed⟩
  have spared (course : Course) : course.Spared (fun _ => True) world := ⟨fun _ _ => trivial, fun _ _ => .inl trivial⟩
  exact fair.step (fair.kept.moved present moved) calmer (fun label _ => spared label.2)
    (fair.own.listed.calmer calmer (spared course).listed) (fair.own.standing.calmer calmer (spared course)) rfl
    fun _ own => .inl own

theorem Fair.linkSteps (fair : Fair extra world beside task course)
    (moved : Relation.ReflTransGen LinkStep world after) : Fair extra after beside task course := by
  induction moved with
  | refl => exact fair
  | tail _ step ih => exact ih.linkStep step

end Links

/-! ## Effects that store and queue nothing -/

/-- Entries may leave the cache, and that is all. -/
structure Quiet (before after : LinkedWorld) : Prop where
  counter : after.base.counter = before.base.counter
  cache : ∀ key entry, after.base.cache.lookup key = some entry → before.base.cache.lookup key = some entry
  latest : after.latest = before.latest
  timedOut : after.timedOut = before.timedOut
  links : after.links = before.links

def Effect.Ordinary : (Answer : Type) → Effect Answer → Prop
  | _, .nextProxyState => False
  | _, .cacheInsert _ => False
  | _, .cacheTimedOut _ => False
  | _, .linkSend _ _ => False
  | _, .linkReset _ _ => False
  | _, _ => True

section Ordinary

variable {extra : Nat} {before after : LinkedWorld} {Answer : Type} {effect : Effect Answer} {answer : Answer}

theorem ordinary_base {world next : World} (ordinary : Effect.Ordinary Answer effect)
    (performed : Performs True Answer effect world answer next) :
    next.counter = world.counter ∧
      ∀ key entry, next.cache.lookup key = some entry → world.cache.lookup key = some entry := by
  cases effect with
  | nextProxyState | cacheInsert entry | cacheTimedOut timeout | linkSend server bytes
  | linkReset server generation => cases ordinary
  | cacheGet key | cacheExpired ttl | recordResponse server =>
    obtain ⟨_, rfl⟩ := performed
    exact ⟨rfl, fun _ _ found => found⟩
  | nasSend reply =>
    simp only [Performs] at performed
    split at performed
    · rw [performed]
      exact ⟨rfl, fun _ _ found => found⟩
    · rw [performed.2]
      exact ⟨rfl, fun _ _ found => found⟩
  | cacheRemove removed =>
    cases performed
    exact ⟨rfl, by grind⟩
  | _ =>
    cases performed
    exact ⟨rfl, fun _ _ found => found⟩

theorem ordinary_quiet (ordinary : Effect.Ordinary Answer effect)
    (performed : LinkPerforms Answer effect before answer after) : Quiet before after := by
  obtain ⟨counter, cache⟩ := ordinary_base ordinary (linkPerforms_performs performed)
  have rest : after.latest = before.latest ∧ after.timedOut = before.timedOut ∧ after.links = before.links := by
    cases effect with
    | nextProxyState | cacheInsert entry | cacheTimedOut timeout | linkSend server bytes
    | linkReset server generation => cases ordinary
    | link server | linkConnected server =>
      obtain ⟨_, rfl⟩ := performed
      exact ⟨rfl, rfl, rfl⟩
    | _ =>
      obtain ⟨base, _, rfl⟩ := performed
      exact ⟨rfl, rfl, rfl⟩
  exact ⟨counter, cache, rest.1, rest.2.1, rest.2.2⟩

theorem Kept.quiet (kept : Kept extra before) (quiet : Quiet before after) : Kept extra after := by
  obtain ⟨sane, copies, cached, keyed, loads, timedOut⟩ := kept
  obtain ⟨counter, cache, latest, listed, links⟩ := quiet
  rw [← links] at sane copies loads
  rw [← latest] at cached keyed loads timedOut
  exact ⟨sane, copies, fun key entry found => cached key entry (cache key entry found), counter ▸ keyed, loads,
    listed ▸ timedOut⟩

theorem Quiet.calmer (quiet : Quiet before after) (spared : ProxyStateKey → Prop) : Calmer spared before after :=
  .of_links quiet.counter.ge (fun _ listed => quiet.timedOut ▸ listed) (fun key _ => congrFun quiet.latest key) quiet.links

end Ordinary

end UsgRadius.Proxy
