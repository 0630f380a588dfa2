import UsgRadius.Proxy.LinkLoad

namespace UsgRadius.Proxy

open Data

/-! The course of a request from its key to the frame queued for it, in
forwarding and in each of its retries. -/

/-- Where a task stands. A retry keeps the entries of its scan that it has still
to handle. -/
inductive Course where
  | opening
  | keyed (key : ProxyStateKey)
  | sending (entry : ProxyCacheEntry)
  /-- Nothing more to store or to send. -/
  | resting
  | ticking
  | handling (rest : List ProxyCacheEntry)
  | dropping (rest : List ProxyCacheEntry)
  | deciding (entry : ProxyCacheEntry) (rest : List ProxyCacheEntry)
  /-- The request is to be sent again: its connection is read next. -/
  | reading (entry : ProxyCacheEntry) (rest : List ProxyCacheEntry)
  | storing (entry : ProxyCacheEntry) (generation : Option UInt64) (rest : List ProxyCacheEntry)
  /-- The request is not to be sent again. -/
  | keeping (entry : ProxyCacheEntry) (rest : List ProxyCacheEntry)
  | resending (entry : ProxyCacheEntry) (rest : List ProxyCacheEntry)

def Task.opens : Task → Course
  | .forward _ _ _ _ => .opening
  | .respond _ _ => .resting
  | .retry => .ticking
  | .cleanup => .resting

structure Renews (old : ProxyCacheEntry) (generation : Option UInt64) (entry : ProxyCacheEntry) : Prop where
  request : entry.originalRequest = old.originalRequest
  homeServer : entry.homeServer = old.homeServer
  proxyState : entry.proxyState = old.proxyState
  connection : entry.sentOnConnection = generation

/-- What `may_resend` makes of the link of a RadSec home server. -/
def resends (view : Option LinkView) (sentOn : Option UInt64) : Bool :=
  match view with
  | none => true
  | some link => !link.connected || some link.connections ≠ sentOn

namespace Course

def rest : Course → List ProxyCacheEntry
  | handling rest => rest
  | storing _ _ rest => rest
  | keeping _ rest => rest
  | resending _ rest => rest
  | _ => []

def mayStore : Course → ProxyCacheEntry → Prop
  | keyed key, entry => entry.proxyState = key ∧ lastProxyState entry.originalRequest = some key
  | storing old generation _, entry => Renews old generation entry
  | keeping old _, entry => Renews old old.sentOnConnection entry
  | _, _ => False

structure Frames (entry : ProxyCacheEntry) (server : HomeServer) (bytes : Octets) : Prop where
  own : server = entry.homeServer
  radsec : server.transport = .radsec
  encoded : entry.originalRequest.encode = .ok bytes

def maySend : Course → HomeServer → Octets → Prop
  | sending entry, server, bytes => Frames entry server bytes
  | resending entry _, server, bytes => Frames entry server bytes
  | _, _, _ => False

def mayRead : Course → HomeServer → Prop
  | deciding entry _, server => server = entry.homeServer
  | reading entry _, server => server = entry.homeServer
  | _, _ => True

def permits : Course → (Answer : Type) → Effect Answer → Prop
  | course, _, .nextProxyState => course = opening
  | course, _, .cacheInsert entry => course.mayStore entry
  | course, _, .linkSend server bytes => course.maySend server bytes
  | course, _, .cacheTimedOut _ => course = ticking
  | course, _, .link server => course.mayRead server
  | _, _, _ => True

def stored : Course → ProxyCacheEntry → Except ProxyError Unit → Course
  | keyed _, entry, .ok () => sending entry
  | keyed _, _, .error _ => resting
  | storing _ _ rest, entry, .ok () => resending entry rest
  | storing _ _ rest, _, .error _ => handling rest
  | keeping _ rest, _, _ => handling rest
  | course, _, _ => course

def sent : Course → Course
  | sending _ => resting
  | resending _ rest => handling rest
  | course => course

/-- A RadSec request is sent again or not; the connection it is recorded on is
read after that. Over UDP the link is read only for the record. -/
def read : Course → Option LinkView → Course
  | deciding entry rest, view =>
    match entry.homeServer.transport with
    | .udp => storing entry (view.map (·.connections)) rest
    | .radsec => if resends view entry.sentOnConnection then reading entry rest else keeping entry rest
  | reading entry rest, view => storing entry (view.map (·.connections)) rest
  | course, _ => course

/-- `record_timeout` is the first thing a retry does and the last of a reject. -/
def counted : Course → Course
  | dropping rest => handling rest
  | course =>
    match course.rest with
    | entry :: rest => deciding entry rest
    | [] => course

def replied (course : Course) (sent : Bool) : Course :=
  match course.rest with
  | _ :: rest => if sent then dropping rest else handling rest
  | [] => course

def advance : Course → (Answer : Type) → Effect Answer → Answer → Course
  | _, _, .nextProxyState, key => keyed key
  | course, _, .cacheInsert entry, answer => course.stored entry answer
  | course, _, .linkSend _ _, _ => course.sent
  | _, _, .cacheTimedOut _, entries => handling entries
  | course, _, .link _, view => course.read view
  | course, _, .recordTimeout _, _ => course.counted
  | course, _, .nasSend _, sent => course.replied sent
  | course, _, _, _ => course

end Course

def sendings : Protocol Effect Course where
  permits := Course.permits
  advance := Course.advance
  rests _ := True

theorem Course.counted_rest {course : Course} {entry : ProxyCacheEntry} {rest : List ProxyCacheEntry}
    (next : course.rest = entry :: rest) : course.counted = .deciding entry rest := by
  cases course <;> simp_all [Course.rest, Course.counted]

theorem Course.replied_rest {course : Course} {entry : ProxyCacheEntry} {rest : List ProxyCacheEntry} {sent : Bool}
    (next : course.rest = entry :: rest) : course.replied sent = if sent then .dropping rest else .handling rest := by
  simp only [Course.replied, next]

end UsgRadius.Proxy
