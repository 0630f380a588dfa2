import UsgRadius.Data.Interleaving
import UsgRadius.Server.RequestCache

namespace UsgRadius.RequestCache

open Data Program

/-! Concurrent use of the duplicate cache, one map operation at a time. -/

/-- A call of `admit`; `call` tells the running calls apart. -/
structure AdmitCall where
  call : Nat
  fingerprint : RequestFingerprint
  source : SocketAddr
  digest : Block 32
deriving DecidableEq

inductive MapStep : Type → Type
  | now : MapStep Nat
  | len (call : Nat) : MapStep Nat
  | containsKey (key : RequestFingerprint) : MapStep Bool
  /-- `iter().next()`. -/
  | pick : MapStep (Option RequestFingerprint)
  | remove (key : RequestFingerprint) : MapStep Unit
  /-- What is done under the guard of `entry(fingerprint)`. -/
  | entry (call : Nat) (key : RequestFingerprint) (fresh : CacheEntry) : MapStep Admission
  | storeReply (key : RequestFingerprint) (digest : Block 32) (reply : Octets) : MapStep Unit
  | expiredKeys (now : Nat) : MapStep (List RequestFingerprint)
  | removeIfExpired (now : Nat) (key : RequestFingerprint) : MapStep Unit
  | clear : MapStep Unit

abbrev Action := Program MapStep Empty

def evict (key : RequestFingerprint) : Action Unit := do
  if ← ask (.containsKey key) then
    return ()
  else do
    match ← ask .pick with
    | some victim => ask (.remove victim)
    | none => return ()

def makeRoomSteps (maxEntries : Nat) (request : AdmitCall) : Action Unit := do
  if maxEntries ≤ (← ask (.len request.call)) then
    evict request.fingerprint
  else
    return ()

def admitSteps (maxEntries : Nat) (request : AdmitCall) : Action Admission := do
  let now ← ask .now
  makeRoomSteps maxEntries request
  ask (.entry request.call request.fingerprint ⟨now, request.digest, request.source, none, 0⟩)

def removeAll (now : Nat) : List RequestFingerprint → Action Unit
  | [] => return ()
  | key :: rest => do
    ask (.removeIfExpired now key)
    removeAll now rest

def cleanupSteps : Action Unit := do
  let now ← ask .now
  removeAll now (← ask (.expiredKeys now))

structure World where
  requests : RequestCache
  /-- The calls that have read the length since an entry was last added. -/
  measured : List Nat

def World.enter (world : World) (key : RequestFingerprint) (fresh : CacheEntry) : Admission × World :=
  match world.requests.cache.lookup key with
  | none => (.new, ⟨{ world.requests with cache := world.requests.cache.insert key fresh }, []⟩)
  | some entry =>
    let (answer, requests) := world.requests.readmit fresh.insertedAt key entry fresh
    (answer, { world with requests })

def Performs : Program.Semantics MapStep World
  | _, .now, world, _, after => after = world
  | _, .len call, world, length, after =>
    length = world.requests.cache.entries.length ∧ after = { world with measured := call :: world.measured }
  | _, .containsKey key, world, found, after => found = decide (key ∈ world.requests.cache) ∧ after = world
  | _, .pick, world, victim, after => world.requests.Starts victim ∧ after = world
  | _, .remove key, world, _, after =>
    after = { world with requests := { world.requests with cache := world.requests.cache.erase key } }
  | _, .entry _ key fresh, world, answer, after => (answer, after) = world.enter key fresh
  | _, .storeReply key digest reply, world, _, after =>
    after = { world with requests := world.requests.storeReply key digest reply }
  | _, .expiredKeys now, world, keys, after => keys = world.requests.expiredKeys now ∧ after = world
  | _, .removeIfExpired now key, world, _, after =>
    after = { world with requests := RequestCache.removeIfExpired now world.requests key }
  | _, .clear, world, _, after => after = { world with requests := world.requests.clear }

variable {before after : World} {request : AdmitCall}

theorem makeRoomSteps_runs {outcome : Except Empty Unit}
    (run : Runs Performs (makeRoomSteps before.requests.maxEntries request) before outcome after) :
    ∃ victim, before.requests.Starts victim ∧
      after.requests = before.requests.makeRoom request.fingerprint victim := by
  obtain ⟨first, starts⟩ := before.requests.exists_starts
  rw [makeRoomSteps, ask_bind, runs_perform] at run
  obtain ⟨length, _, ⟨rfl, rfl⟩, run⟩ := run
  unfold makeRoom
  by_cases full : before.requests.maxEntries ≤ before.requests.cache.entries.length
  · rw [if_pos full, evict, ask_bind, runs_perform] at run
    obtain ⟨found, _, ⟨rfl, rfl⟩, run⟩ := run
    by_cases present : request.fingerprint ∈ before.requests.cache
    · rw [if_pos (decide_eq_true present), pure_eq, runs_done] at run
      obtain ⟨_, rfl⟩ := run
      exact ⟨first, starts, (if_neg fun both => both.2 present).symm⟩
    · rw [if_neg (by simpa using present), ask_bind, runs_perform] at run
      obtain ⟨victim, _, ⟨own, rfl⟩, run⟩ := run
      refine ⟨victim, own, ?_⟩
      rw [if_pos ⟨full, present⟩]
      cases victim with
      | none =>
        rw [pure_eq, runs_done] at run
        obtain ⟨_, rfl⟩ := run
        rfl
      | some key =>
        rw [runs_ask] at run
        obtain ⟨_, _, rfl⟩ := run
        rfl
  · rw [if_neg full, pure_eq, runs_done] at run
    obtain ⟨_, rfl⟩ := run
    exact ⟨first, starts, (if_neg fun both => full both.1).symm⟩

theorem admitSteps_runs {answer : Admission}
    (run : Runs Performs (admitSteps before.requests.maxEntries request) before (.ok answer) after) :
    ∃ now victim, before.requests.Starts victim ∧
      (answer, after.requests) =
        before.requests.admitRequest now victim request.fingerprint request.source request.digest := by
  rw [admitSteps, ask_bind, runs_perform] at run
  obtain ⟨now, _, rfl, run⟩ := run
  rw [runs_bind] at run
  rcases run with ⟨reason, _, _⟩ | ⟨_, between, makesRoom, run⟩
  · exact reason.elim
  obtain ⟨victim, starts, room⟩ := makeRoomSteps_runs makesRoom
  rw [runs_ask] at run
  obtain ⟨own, same, entered⟩ := run
  cases same
  refine ⟨now, victim, starts, ?_⟩
  unfold admitRequest
  simp only [Performs, World.enter, room] at entered
  split at entered
  next absent =>
    cases entered
    simp only [absent]
  next entry found =>
    cases entered
    simp only [found]

inductive Task where
  | admitRequest (request : AdmitCall)
  | storeReply (key : RequestFingerprint) (digest : Block 32) (reply : Octets)
  | cleanup
  | clear
deriving DecidableEq

def Task.call? : Task → Option Nat
  | .admitRequest request => some request.call
  | _ => none

/-- Any tasks beside each other; running calls have numbers of their own. -/
def cacheTasks (maxEntries : Nat) : System MapStep Empty Task World where
  start
    | .admitRequest request => do
      let _ ← admitSteps maxEntries request
      return ()
    | .storeReply key digest reply => ask (.storeReply key digest reply)
    | .cleanup => cleanupSteps
    | .clear => ask .clear
  mayStart running task := task.call?.isNone || decide (task.call? ∉ running.map Task.call?)
  step := Performs

/-- A call adds an entry only if none has been added since it read the length. -/
def undisturbed : Guard MapStep Empty Task World := fun pool _ _ effect =>
  match effect with
  | .entry call key _ => decide (key ∈ pool.world.requests.cache) || decide (call ∈ pool.world.measured)
  | _ => true

inductive Stage where
  | arriving
  | full
  | unknown
  | evicting (victim : RequestFingerprint)
  | known
  | roomy
  | answered

/-- A call of `admit` at a stage, or another operation. -/
inductive Place where
  | admitting (request : AdmitCall) (stage : Stage)
  | elsewhere

namespace Place

def permits : Place → (Answer : Type) → MapStep Answer → Prop
  | .admitting _ .arriving, _, .now => True
  | .admitting request .arriving, _, .len call => call = request.call
  | .admitting request .full, _, .containsKey key => key = request.fingerprint
  | .admitting _ .unknown, _, .pick => True
  | .admitting _ (.evicting victim), _, .remove key => key = victim
  | .admitting request .known, _, .entry call key _ => call = request.call ∧ key = request.fingerprint
  | .admitting request .roomy, _, .entry call key _ => call = request.call ∧ key = request.fingerprint
  | .elsewhere, _, .now => True
  | .elsewhere, _, .storeReply _ _ _ => True
  | .elsewhere, _, .expiredKeys _ => True
  | .elsewhere, _, .removeIfExpired _ _ => True
  | .elsewhere, _, .clear => True
  | _, _, _ => False

def advance (maxEntries : Nat) : Place → (Answer : Type) → MapStep Answer → Answer → Place
  | .admitting request _, _, .len _, length => .admitting request (if maxEntries ≤ length then .full else .roomy)
  | .admitting request _, _, .containsKey _, found => .admitting request (if found then .known else .unknown)
  | .admitting request _, _, .pick, victim => .admitting request (victim.elim .roomy .evicting)
  | .admitting request _, _, .remove _, _ => .admitting request .roomy
  | .admitting request _, _, .entry _ _ _, _ => .admitting request .answered
  | place, _, _, _ => place

def call? : Place → Option Nat
  | .admitting request _ => some request.call
  | .elsewhere => none

/-- What a call knows of the cache, as long as no entry has been added since it
read the length. -/
def Knows (requests : RequestCache) : Place → Prop
  | .admitting _ .roomy => requests.cache.entries.length < requests.maxEntries
  | .admitting request .known =>
    request.fingerprint ∈ requests.cache ∨ requests.cache.entries.length < requests.maxEntries
  | .admitting _ (.evicting victim) => victim ∈ requests.cache ∨ requests.cache.entries.length < requests.maxEntries
  | _ => True

def Informed (world : World) (place : Place) : Prop :=
  ∀ call, place.call? = some call → call ∈ world.measured → place.Knows world.requests

theorem call?_advance (maxEntries : Nat) (place : Place) {Answer : Type} (effect : MapStep Answer) (answer : Answer) :
    (place.advance maxEntries Answer effect answer).call? = place.call? := by
  cases place <;> cases effect <;> rfl

end Place

def lifecycle (maxEntries : Nat) : Protocol MapStep Place where
  permits := Place.permits
  advance := Place.advance maxEntries
  rests _ := True

def Task.begins : Task → Place
  | .admitRequest request => .admitting request .arriving
  | _ => .elsewhere

/-! ### The operations go through their stages -/

theorem removeAll_conforms (maxEntries now : Nat) (keys : List RequestFingerprint) :
    (lifecycle maxEntries).Conforms .elsewhere (removeAll now keys) := by
  induction keys with
  | nil => exact trivial
  | cons key rest ih => exact .ask trivial fun _ => ih

theorem makeRoomSteps_follows (maxEntries : Nat) (request : AdmitCall) :
    (lifecycle maxEntries).Follows (fun place _ => ∃ stage, place = .admitting request stage ∧
      (stage = .known ∨ stage = .roomy)) (.admitting request .arriving) (makeRoomSteps maxEntries request) := by
  refine .ask rfl fun length => ?_
  by_cases full : maxEntries ≤ length
  · simp only [lifecycle, Place.advance, if_pos full]
    refine .ask rfl fun found => ?_
    cases found with
    | true => exact ⟨.known, rfl, .inl rfl⟩
    | false =>
      refine .ask trivial fun victim => ?_
      cases victim with
      | none => exact ⟨.roomy, rfl, .inr rfl⟩
      | some key => exact ⟨rfl, fun _ => ⟨.roomy, rfl, .inr rfl⟩⟩
  · simp only [lifecycle, Place.advance, if_neg full]
    exact ⟨.roomy, rfl, .inr rfl⟩

theorem tasks_conform (maxEntries : Nat) (task : Task) :
    (lifecycle maxEntries).Conforms task.begins ((cacheTasks maxEntries).start task) := by
  cases task with
  | admitRequest request =>
    refine .bind (.ask trivial fun now => .bind ((makeRoomSteps_follows maxEntries request).mono ?_))
    intro place outcome ready
    obtain ⟨stage, rfl, ready⟩ := ready
    cases outcome with
    | error impossible => exact impossible.elim
    | ok _ => rcases ready with rfl | rfl <;> exact ⟨⟨rfl, rfl⟩, fun _ => trivial⟩
  | storeReply key digest reply => exact ⟨trivial, fun _ => trivial⟩
  | cleanup => exact .ask trivial fun now => .ask trivial fun keys => removeAll_conforms maxEntries now keys
  | clear => exact ⟨trivial, fun _ => trivial⟩

/-- No key is in the map that was not there before. -/
structure Narrows (before after : RequestCache) : Prop where
  keys : ∀ key, key ∈ after.cache → key ∈ before.cache
  settings : after.maxEntries = before.maxEntries

section Bound

variable {maxEntries call : Nat} {before after requests : RequestCache} {world later : World} {place : Place}
  {Answer : Type} {effect : MapStep Answer} {answer : Answer} {key : RequestFingerprint} {fresh : CacheEntry}
  {task : Task}

theorem Narrows.length_le (narrows : Narrows before after) : after.cache.entries.length ≤ before.cache.entries.length :=
  Maps.length_le_of_subset narrows.keys

theorem Narrows.length_lt (narrows : Narrows before after) (present : key ∈ before.cache) (gone : key ∉ after.cache) :
    after.cache.entries.length < before.cache.entries.length := by
  have distinct : (key :: after.cache.keys).Nodup := List.nodup_cons.mpr ⟨gone, after.cache.keys_nodup⟩
  have within : key :: after.cache.keys ⊆ before.cache.keys := by
    intro other member
    rcases List.mem_cons.mp member with rfl | kept
    · exact present
    · exact narrows.keys other kept
  have shorter := (List.subperm_of_subset distinct within).length_le
  simp only [AList.keys, List.keys, List.length_cons, List.length_map] at shorter
  exact shorter

theorem Narrows.knows (narrows : Narrows before after) (limit : before.cache.entries.length ≤ before.maxEntries)
    (knows : place.Knows before) : place.Knows after := by
  have held {key : RequestFingerprint}
      (known : key ∈ before.cache ∨ before.cache.entries.length < before.maxEntries) :
      key ∈ after.cache ∨ after.cache.entries.length < after.maxEntries := by
    by_cases kept : key ∈ after.cache
    · exact .inl kept
    · rw [narrows.settings]
      rcases known with present | room
      · exact .inr ((narrows.length_lt present kept).trans_le limit)
      · exact .inr (narrows.length_le.trans_lt room)
  cases place with
  | elsewhere => exact trivial
  | admitting request stage =>
    cases stage with
    | roomy =>
      rw [Place.Knows, narrows.settings]
      exact narrows.length_le.trans_lt knows
    | known | evicting victim => exact held knows
    | _ => exact trivial

/-- What a step does to the map: keys may go, a length is read, or an entry is added. -/
inductive Moves (world : World) : (Answer : Type) → MapStep Answer → World → Prop
  | narrows {Answer : Type} {effect : MapStep Answer} {requests : RequestCache}
      (narrows : Narrows world.requests requests) : Moves world Answer effect { world with requests }
  | measures (call : Nat) : Moves world Nat (.len call) { world with measured := call :: world.measured }
  | adds (call : Nat) {key : RequestFingerprint} (fresh : CacheEntry) (absent : key ∉ world.requests.cache) :
      Moves world Admission (.entry call key fresh)
        ⟨{ world.requests with cache := world.requests.cache.insert key fresh }, []⟩

theorem narrows_refl (requests : RequestCache) : Narrows requests requests :=
  ⟨fun _ kept => kept, rfl⟩

theorem narrows_erase (requests : RequestCache) (key : RequestFingerprint) :
    Narrows requests { requests with cache := requests.cache.erase key } :=
  ⟨fun _ kept => (AList.mem_erase.mp kept).2, rfl⟩

theorem narrows_insert (present : key ∈ requests.cache) (entry : CacheEntry) :
    Narrows requests { requests with cache := requests.cache.insert key entry } := by
  refine ⟨fun other kept => ?_, rfl⟩
  rcases (AList.mem_insert requests.cache).mp kept with rfl | old
  · exact present
  · exact old

theorem narrows_readmitted {entry : CacheEntry} (now : Nat) (found : requests.cache.lookup key = some entry)
    (fresh : CacheEntry) : Narrows requests (requests.readmit now key entry fresh).2 := by
  have present : key ∈ requests.cache := AList.lookup_isSome.mp (by rw [found]; rfl)
  grind [narrows_insert, readmit, narrows_refl]

theorem performs_moves (performed : Performs Answer effect world answer later) : Moves world Answer effect later := by
  have still {Answer : Type} {effect : MapStep Answer} : Moves world Answer effect world := .narrows (narrows_refl world.requests)
  cases effect with
  | now =>
    cases performed
    exact still
  | len call =>
    obtain ⟨_, rfl⟩ := performed
    exact .measures call
  | remove key =>
    cases performed
    exact .narrows (narrows_erase world.requests key)
  | entry call key fresh =>
    simp only [Performs, World.enter] at performed
    cases found : world.requests.cache.lookup key with
    | none =>
      rw [found] at performed
      cases performed
      exact .adds call fresh (AList.lookup_eq_none.mp found)
    | some entry =>
      rw [found] at performed
      cases performed
      exact .narrows (narrows_readmitted _ found fresh)
  | storeReply key digest reply =>
    cases performed
    exact .narrows (by grind [storeReply, narrows_insert, narrows_refl, AList.lookup_isSome])
  | removeIfExpired now key =>
    cases performed
    exact .narrows (by grind [removeIfExpired, narrows_erase, narrows_refl])
  | clear =>
    cases performed
    exact .narrows ⟨fun _ member => absurd member (AList.notMem_empty _), rfl⟩
  | _ =>
    obtain ⟨_, rfl⟩ := performed
    exact still

theorem permits_entry (permits : place.permits Admission (.entry call key fresh)) :
    place.call? = some call ∧ (place.Knows before → key ∉ before.cache →
      before.cache.entries.length < before.maxEntries) := by
  unfold Place.permits at permits
  grind [Place.call?, Place.Knows]

theorem Place.Informed.other {own : Place} (informed : place.Informed world)
    (limit : world.requests.cache.entries.length ≤ world.requests.maxEntries)
    (differs : ∀ call, own.call? = some call → place.call? ≠ some call) (permits : own.permits Answer effect)
    (performed : Performs Answer effect world answer later) : place.Informed later := by
  intro call calls fresh
  cases performs_moves performed with
  | narrows narrows => exact narrows.knows limit (informed call calls fresh)
  | measures other =>
    have reads : own.call? = some other := by
      unfold Place.permits at permits
      grind [Place.call?]
    rcases List.mem_cons.mp fresh with rfl | earlier
    · exact absurd calls (differs call reads)
    · exact informed call calls earlier
  | adds => cases fresh

theorem Place.Informed.own (informed : place.Informed world)
    (limit : world.requests.cache.entries.length ≤ world.requests.maxEntries) (positive : 1 ≤ world.requests.maxEntries)
    (permits : place.permits Answer effect) (performed : Performs Answer effect world answer later) :
    (place.advance world.requests.maxEntries Answer effect answer).Informed later := by
  intro call calls fresh
  rw [Place.call?_advance] at calls
  unfold Place.permits at permits
  split at permits
  case h_2 =>
    obtain ⟨rfl, rfl⟩ := performed
    simp only [Place.advance]
    split
    next => exact trivial
    next room => exact Nat.lt_of_not_le room
  case h_3 request key =>
    obtain ⟨rfl, rfl⟩ := performed
    subst permits
    by_cases present : request.fingerprint ∈ later.requests.cache
    · simp [Place.advance, Place.Knows, present]
    · simp [Place.advance, Place.Knows, present]
  case h_4 =>
    obtain ⟨starts, rfl⟩ := performed
    cases answer with
    | some victim => exact .inl starts
    | none =>
      have empty : later.requests.cache = ∅ := starts
      simp only [Place.advance, Option.elim_none, Place.Knows, empty]
      exact positive
  case h_5 victim key =>
    subst permits
    cases performed
    have narrows := narrows_erase world.requests key
    have gone : key ∉ world.requests.cache.erase key := fun kept => (AList.mem_erase.mp kept).1 rfl
    rcases informed call calls fresh with present | room
    · exact (narrows.length_lt present gone).trans_le limit
    · exact narrows.length_le.trans_lt room
  all_goals first | exact trivial | cases calls | cases permits

theorem limit_kept {pool : Pool MapStep Empty Task World} (informed : place.Informed pool.world)
    (limit : pool.world.requests.cache.entries.length ≤ pool.world.requests.maxEntries)
    (permits : place.permits Answer effect) (allowed : undisturbed pool task Answer effect = true)
    (performed : Performs Answer effect pool.world answer later) :
    later.requests.cache.entries.length ≤ pool.world.requests.maxEntries ∧
      later.requests.maxEntries = pool.world.requests.maxEntries := by
  cases performs_moves performed with
  | narrows narrows => exact ⟨narrows.length_le.trans limit, narrows.settings⟩
  | measures call => exact ⟨limit, rfl⟩
  | adds call fresh absent =>
    simp only [undisturbed, absent, decide_false, Bool.false_or, decide_eq_true_eq] at allowed
    obtain ⟨calls, room⟩ := permits_entry permits
    refine ⟨?_, rfl⟩
    rw [Maps.length_insert_of_notMem absent]
    exact room (informed call calls allowed) absent

def Limited (maxEntries : Nat) (world : World) : Prop :=
  world.requests.maxEntries = maxEntries ∧ world.requests.cache.entries.length ≤ world.requests.maxEntries

def Kept (world : World) (label : Task × Place) : Prop :=
  label.2.call? = label.1.call? ∧ label.2.Informed world

def Apart (one other : Task × Place) : Prop :=
  ∀ call, one.1.call? = some call → other.1.call? ≠ some call

theorem limited_stable (positive : 1 ≤ maxEntries) : Stable (cacheTasks maxEntries) undisturbed (lifecycle maxEntries)
    Task.begins (Shared (Limited maxEntries) Kept Apart) := by
  apply Shared.stable
  · exact fun apart call calls same => apart call same calls
  · exact tasks_conform maxEntries
  · intro world labels task _ may
    refine ⟨by cases task <;> exact ⟨rfl, fun _ _ _ => trivial⟩, fun label member call calls same => ?_⟩
    simp only [cacheTasks, calls, Option.isNone_some, Bool.false_or, decide_eq_true_eq, List.map_map] at may
    exact may (List.mem_map.mpr ⟨label, member, same⟩)
  · intro world threads left task place right Answer effect answer after _ ⟨settings, limit⟩ ⟨owns, informed⟩ others
      permits allowed performed
    have kept := limit_kept informed limit permits allowed performed
    have own := informed.own limit (settings.symm ▸ positive) permits performed
    refine ⟨⟨kept.2.trans settings, kept.1.trans_eq kept.2.symm⟩,
      ⟨(place.call?_advance maxEntries effect answer).trans owns, settings ▸ own⟩, fun label member => ?_⟩
    obtain ⟨⟨otherOwns, otherInformed⟩, apart⟩ := others label member
    refine ⟨⟨otherOwns, otherInformed.other limit (fun call calls same => ?_) permits performed⟩, apart⟩
    exact apart call (owns.symm.trans calls) (otherOwns.symm.trans same)

end Bound

/-- In every run in which calls add entries only undisturbed, the cache stays
within its limit. -/
theorem undisturbed_bounded {maxEntries ttl : Nat} (positive : 1 ≤ maxEntries) {pool : Pool MapStep Empty Task World}
    (run : (cacheTasks maxEntries).Reaches undisturbed ⟨⟨⟨∅, ttl, maxEntries⟩, []⟩, []⟩ pool) :
    pool.world.requests.cache.entries.length ≤ maxEntries := by
  have initially : Holds (lifecycle maxEntries) (Shared (Limited maxEntries) Kept Apart)
      (⟨⟨⟨∅, ttl, maxEntries⟩, []⟩, []⟩ : Pool MapStep Empty Task World) :=
    ⟨[], .nil, ⟨rfl, Nat.zero_le _⟩, fun _ none => absurd none List.not_mem_nil, .nil⟩
  obtain ⟨labels, _, ⟨settings, limit⟩, _⟩ := (limited_stable positive).reaches initially run
  exact limit.trans_eq settings

/-- Effects at a time, with an iterator that starts at the first entry. -/
def perform (time : Nat) : (Answer : Type) → MapStep Answer → World → Answer × World
  | _, .now, world => (time, world)
  | _, .len call, world => (world.requests.cache.entries.length, { world with measured := call :: world.measured })
  | _, .containsKey key, world => (decide (key ∈ world.requests.cache), world)
  | _, .pick, world => (world.requests.cache.entries.head?.map Sigma.fst, world)
  | _, .remove key, world =>
    ((), { world with requests := { world.requests with cache := world.requests.cache.erase key } })
  | _, .entry _ key fresh, world => world.enter key fresh
  | _, .storeReply key digest reply, world => ((), { world with requests := world.requests.storeReply key digest reply })
  | _, .expiredKeys now, world => (world.requests.expiredKeys now, world)
  | _, .removeIfExpired now key, world => ((), { world with requests := RequestCache.removeIfExpired now world.requests key })
  | _, .clear, world => ((), { world with requests := world.requests.clear })

theorem perform_performs (time : Nat) (Answer : Type) (effect : MapStep Answer) (world : World) :
    Performs Answer effect world (perform time Answer effect world).1 (perform time Answer effect world).2 := by
  cases effect with
  | pick =>
    refine ⟨?_, rfl⟩
    obtain ⟨⟨⟨entries, distinct⟩, ttl, maxEntries⟩, measured⟩ := world
    cases entries with
    | nil => rfl
    | cons entry rest => exact List.mem_cons_self
  | now => rfl
  | len | containsKey | expiredKeys => exact ⟨rfl, rfl⟩
  | _ => rfl

def sampleCall (call : Nat) (identifier : UInt8) : Task :=
  .admitRequest ⟨call, sampleFingerprint identifier, samplePeer, .zero 32⟩

/-- A cache for one entry. -/
abbrev samplePool : Pool MapStep Empty Task World :=
  ⟨⟨⟨∅, 60, 1⟩, []⟩, []⟩

/-- One call after the other. -/
def sampleTurns : List (Turn Task Nat) :=
  [.start (sampleCall 0 7)] ++ List.replicate 3 (.act 0 0) ++ [.start (sampleCall 1 8)] ++ List.replicate 6 (.act 0 1)

def sampleRace : List (Turn Task Nat) :=
  [.start (sampleCall 0 7), .act 0 0, .act 0 0, .start (sampleCall 1 8), .act 0 0, .act 0 0, .act 0 0, .act 1 0]

theorem sampleTurns_bounded : ∃ pool, follow (cacheTasks 1) undisturbed perform sampleTurns samplePool = some pool ∧
    sampleFingerprint 8 ∈ pool.world.requests.cache ∧ pool.world.requests.cache.entries.length ≤ 1 := by
  have ran : ((follow (cacheTasks 1) undisturbed perform sampleTurns samplePool).any fun pool =>
      decide (sampleFingerprint 8 ∈ pool.world.requests.cache)) = true := by decide +kernel
  obtain ⟨pool, reached, cached⟩ := (Option.any_eq_true _ _).mp ran
  exact ⟨pool, reached, of_decide_eq_true cached, undisturbed_bounded le_rfl (follow_reaches perform_performs reached)⟩

/-- Two entries in a cache for one. -/
theorem sampleRace_exceeds : ∃ pool, (cacheTasks 1).Reaches (fun _ _ _ _ => true) samplePool pool ∧
    pool.world.requests.cache.entries.length = 2 := by
  have ran : ((follow (cacheTasks 1) (fun _ _ _ _ => true) perform sampleRace samplePool).any fun pool =>
      decide (pool.world.requests.cache.entries.length = 2)) = true := by decide +kernel
  obtain ⟨pool, reached, two⟩ := (Option.any_eq_true _ _).mp ran
  exact ⟨pool, follow_reaches perform_performs reached, of_decide_eq_true two⟩

end UsgRadius.RequestCache
