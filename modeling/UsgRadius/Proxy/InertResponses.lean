import UsgRadius.Proxy.Links
import UsgRadius.Proxy.Progress

namespace UsgRadius.Proxy

open Data Program

variable {link next : LinkState} {generation : UInt64}

/-! A response that is not attributed to a stored request has no effect, except
that the connection it was read on may be closed. -/

def LinkState.Doomed (link : LinkState) (generation : UInt64) : Prop :=
  link.reset = some generation ∨ generation ∈ link.resets

theorem LinkState.Moved.doomed (moved : link.Moved next) (doomed : next.Doomed generation) :
    link.Doomed generation := by
  cases moved with
  | cleared | ignored =>
    rcases doomed with impossible | taken
    · cases impossible
    · exact .inr taken
  | reset pending =>
    rcases doomed with impossible | taken
    · cases impossible
    · rcases List.mem_cons.mp taken with rfl | earlier
      · exact .inl pending
      · exact .inr earlier
  | _ => exact doomed

theorem LinkState.requestReset_doomed {requested : UInt64} (doomed : (link.requestReset requested).Doomed generation) :
    link.Doomed generation ∨ generation = requested := by
  unfold LinkState.requestReset at doomed
  split at doomed
  next => exact .inl doomed
  next =>
    split at doomed
    next =>
      rcases doomed with pending | taken
      · exact .inr (Option.some.inj pending).symm
      · exact .inl (.inr taken)
    next => exact .inl doomed

/-- Every reset beyond those of `start` was asked for on account of `origin`. -/
def OnlyResets (origin : ResponseOrigin) (start world : LinkedWorld) : Prop :=
  ∀ arc link generation, world.links arc = some link → link.Doomed generation →
    (∃ earlier, start.links arc = some earlier ∧ earlier.Doomed generation) ∨
      ∃ server, origin = .link server generation ∧ server.arc = arc

section Resets

variable {origin : ResponseOrigin} {start world after : LinkedWorld}

theorem OnlyResets.setLink {arc : Nat} (only : OnlyResets origin start world) (present : world.links arc = some link)
    (doomed : ∀ generation, next.Doomed generation →
      link.Doomed generation ∨ ∃ server, origin = .link server generation ∧ server.arc = arc) :
    OnlyResets origin start (world.setLink arc next) := by
  intro other found generation stored isDoomed
  by_cases same : other = arc
  · subst same
    obtain rfl : next = found := by simpa [LinkedWorld.setLink] using stored
    rcases doomed generation isDoomed with earlier | ours
    · exact only other link generation present earlier
    · exact .inr ours
  · have kept : world.links other = some found := by simpa [LinkedWorld.setLink, same] using stored
    exact only other found generation kept isDoomed

theorem OnlyResets.moves (only : OnlyResets origin start world) (moved : Relation.ReflTransGen LinkStep world after) :
    OnlyResets origin start after := by
  induction moved with
  | refl => exact only
  | tail _ step ih =>
    obtain ⟨arc, link, move, next, present, taken, rfl⟩ := step
    exact ih.setLink present fun generation doomed => .inl ((LinkState.moved taken).doomed doomed)

/-- What response handling may do to links: close the connection of its origin. -/
def resetsOf (origin : ResponseOrigin) : Protocol Effect Unit where
  permits
    | _, _, .linkReset server generation => origin = .link server generation
    | _, _, .linkSend _ _ => False
    | _, _, _ => True
  advance _ _ _ _ := ()
  rests _ := True

theorem resetsOf_relays (digests : Digests) (origin : ResponseOrigin) (response : Packet) (proxyState : ProxyStateKey)
    (entry : ProxyCacheEntry) : (resetsOf origin).Conforms () (relayResponse digests response proxyState entry) := by
  unfold relayResponse
  refine .ask trivial fun _ => .ask trivial fun draw => ?_
  refine .check (fun _ => trivial) fun relayed _ => .check (fun _ => trivial) fun bytes _ => .ask trivial fun sent => ?_
  cases sent with
  | true | false => exact trivial

theorem resetsOf_handles (digests : Digests) (response : Packet) (origin : ResponseOrigin) :
    (resetsOf origin).Conforms () (handleResponseFrom digests response origin) := by
  unfold handleResponseFrom
  split
  next => exact trivial
  next =>
    refine .ask trivial fun found => ?_
    split
    next => exact trivial
    next =>
      split
      next => exact trivial
      next =>
        refine .check (fun _ => trivial) fun verified _ => ?_
        split
        next =>
          cases origin with
          | udp address => exact trivial
          | link server generation =>
            refine .ask trivial fun view => ?_
            cases view with
            | none => exact trivial
            | some view => exact ⟨rfl, fun _ => trivial⟩
        next =>
          refine .ask trivial fun removed => ?_
          split
          next => exact trivial
          next => exact resetsOf_relays digests origin response _ _

theorem resetsOf_keeps {Answer : Type} {effect : Effect Answer} {answer : Answer}
    (permitted : (resetsOf origin).permits () Answer effect) (performed : LinksRun Answer effect world answer after)
    (only : OnlyResets origin start world) : OnlyResets origin start after := by
  obtain ⟨middle, done, moved⟩ := performed
  refine OnlyResets.moves ?_ moved
  cases effect with
  | linkReset server generation =>
    simp only [LinkPerforms] at done
    split at done
    next =>
      rw [done]
      exact only
    next link present =>
      rw [done]
      refine only.setLink present fun other doomed => ?_
      rcases LinkState.requestReset_doomed doomed with earlier | rfl
      · exact .inl earlier
      · exact .inr ⟨server, permitted, rfl⟩
  | linkSend server bytes => exact permitted.elim
  | link server | linkConnected server =>
    obtain ⟨_, rfl⟩ := done
    exact only
  | cacheInsert entry =>
    simp only [LinkPerforms, LinkedWorld.insert] at done
    split at done
    next =>
      cases done
      exact only
    next =>
      cases done
      exact only
  | cacheTimedOut timeout =>
    obtain ⟨_, rfl⟩ := done
    exact only
  | _ =>
    obtain ⟨base, _, rfl⟩ := done
    exact only

end Resets

/-- A response that is not attributed to an entry changes no entry and no counter
and sends nothing to a NAS; of the links it may close the connection it was read
on. -/
theorem unattributed_inert {digests : Digests} {before after : LinkedWorld} {response : Packet}
    {origin : ResponseOrigin} {result : Except Fault Unit}
    (unattributed : ∀ proxyState entry, ¬ Attributed digests before.base.cache response origin proxyState entry)
    (run : Runs LinksRun (handleResponseFrom digests response origin) before result after) :
    after.base = before.base ∧ OnlyResets origin before after := by
  refine ⟨?_, ?_⟩
  · have proxied : Runs (Performs True) (handleResponseFrom digests response origin) before.base result after.base :=
      run.project fun _ _ _ _ _ performed => linksRun_performs performed
    rcases handleResponseFrom_runs proxied with unchanged | ⟨proxyState, entry, attributed, _⟩
    · exact unchanged
    · exact absurd attributed (unattributed proxyState entry)
  · refine (resetsOf_handles digests response origin).keeps (fun _ _ _ _ _ _ => resetsOf_keeps) run ?_
    exact fun arc link generation present doomed => .inl ⟨link, present, doomed⟩

/-- The proxy of `plainEntry`, with a link that serves its first connection. -/
def linkedSample : LinkedWorld where
  base := forwardedWorld sampleEntry.originalRequest
  links := fun _ => some
    { stage := .serving, connections := 1, queue := [], capacity := 1, reset := none, written := [], resets := [] }
  latest := fun _ => none
  timedOut := []

/-- A response for `plainEntry` that its home server did not sign. -/
def forgedResponse : Packet where
  code := .accessAccept
  identifier := 7
  authenticator := Block.zero 16
  attributes := [⟨AttributeType.proxyState.asU8, (proxyStateKey 0 0).octets⟩]

theorem forgedResponse_inert :
    ∃ result after, Runs LinksRun (handleResponseFrom .checksum forgedResponse (.link sampleEntry.homeServer 1))
        linkedSample result after ∧
      after.base = linkedSample.base ∧ OnlyResets (.link sampleEntry.homeServer 1) linkedSample after ∧
      (after.links 0).map LinkState.reset = some (some 1) := by
  have unattributed : ∀ proxyState entry, ¬ Attributed .checksum linkedSample.base.cache forgedResponse
      (.link sampleEntry.homeServer 1) proxyState entry := by
    intro proxyState entry attributed
    have key : proxyStateKey 0 0 = proxyState :=
      Option.some.inj (Eq.trans (by decide +kernel) attributed.correlated)
    subst key
    have stored : plainEntry = entry := Option.some.inj (Eq.trans (by decide +kernel) attributed.stored)
    subst stored
    exact absurd attributed.verified (by decide +kernel)
  have run := eval_runs (performLinked_runs calm)
    (handleResponseFrom .checksum forgedResponse (.link sampleEntry.homeServer 1)) linkedSample
  obtain ⟨base, resets⟩ := unattributed_inert unattributed run
  exact ⟨_, _, run, base, resets, by decide +kernel⟩

end UsgRadius.Proxy
