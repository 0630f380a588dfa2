import UsgRadius.Server.RadsecCoa

namespace UsgRadius.Radsec

open Data Program Auth Packet

/-! Which callers get which replies, and which Identifiers are free. -/

namespace Callers

structure Quiet (before after : Callers) : Prop where
  gone : before.gone ⊆ after.gone
  delivered : after.delivered = before.delivered
  written : before.written ⊆ after.written

section Quiet

variable {before middle after : Callers}

theorem Quiet.refl (callers : Callers) : Quiet callers callers :=
  ⟨List.Subset.refl _, rfl, List.Subset.refl _⟩

theorem Quiet.trans (first : Quiet before middle) (second : Quiet middle after) : Quiet before after :=
  ⟨List.Subset.trans first.gone second.gone, second.delivered.trans first.delivered,
    List.Subset.trans first.written second.written⟩

theorem Ages.quiet (ages : Ages before after) : Quiet before after :=
  ⟨ages.gone, ages.delivered, ages.written ▸ List.Subset.refl _⟩

end Quiet

end Callers

open Callers

section Steps

variable {before after : Callers}

theorem hangUp_quiet {caller : Nat} {answer : Unit}
    (performed : Performs Unit (.hangUp caller) before answer after) : before.Quiet after := by
  obtain ⟨between, ages, rfl⟩ := performed
  exact ages.quiet.trans ⟨List.subset_cons_self _ _, rfl, List.Subset.refl _⟩

theorem writeOut_runs {caller : Option Nat} {bytes : Octets} {outcome : Except ConnectionEnd Unit}
    (run : Runs Performs (writeOut caller bytes) before outcome after) :
    before.Quiet after ∧ (outcome = .ok () → (caller, bytes) ∈ after.written) := by
  rw [writeOut, ask_bind, runs_perform] at run
  obtain ⟨sent, _, ⟨between, ages, rfl⟩, run⟩ := run
  cases sent with
  | true =>
    rw [if_pos rfl, pure_eq, runs_done] at run
    obtain ⟨_, rfl⟩ := run
    exact ⟨ages.quiet.trans ⟨List.Subset.refl _, rfl, List.subset_cons_self _ _⟩, fun _ => List.mem_cons_self⟩
  | false =>
    rw [if_neg Bool.false_ne_true, fail_eq, runs_done] at run
    obtain ⟨rfl, rfl⟩ := run
    exact ⟨ages.quiet, nofun⟩

end Steps

structure Reclaimed (before after : Callers) (keys : List UInt8) (pending kept : Waiters) : Prop where
  quiet : before.Quiet after
  old : ∀ id entry, kept.lookup id = some entry → pending.lookup id = some entry
  waits : ∀ id ∈ keys, ∀ entry, kept.lookup id = some entry → entry.reply ∉ before.gone
  stays : ∀ id entry, pending.lookup id = some entry → entry.reply ∉ after.gone → kept.lookup id = some entry

variable {connection : Connection}

section Allocation

variable {before middle after : Callers} {keys : List UInt8} {pending kept : Waiters} {id nextId : UInt8}
  {entry : Pending} {count : Nat}

theorem reclaim_runs {outcome : Except ConnectionEnd Waiters}
    (run : Runs Performs (reclaim keys pending) before outcome after) :
    ∃ kept, outcome = .ok kept ∧ Reclaimed before after keys pending kept := by
  induction keys generalizing pending before with
  | nil =>
    rw [reclaim, pure_eq, runs_done] at run
    obtain ⟨rfl, rfl⟩ := run
    exact ⟨pending, rfl, .refl _, fun _ _ found => found, nofun, fun _ _ found _ => found⟩
  | cons id rest ih =>
    cases found : pending.lookup id with
    | none =>
      simp only [reclaim, found] at run
      obtain ⟨kept, rfl, quiet, old, waits, stays⟩ := ih run
      exact ⟨kept, rfl, quiet, old, by grind, stays⟩
    | some entry =>
      simp only [reclaim, found, ask_bind, runs_perform] at run
      obtain ⟨closed, middle, ⟨_, ages, rfl, rfl⟩, run⟩ := run
      have waiting {caller : Nat} (left : caller ∈ before.gone) : caller ∈ middle.gone := ages.gone left
      by_cases gone : entry.reply ∈ middle.gone
      · rw [if_pos (decide_eq_true gone)] at run
        obtain ⟨kept, rfl, quiet, old, waits, stays⟩ := ih run
        have closed := quiet.gone gone
        exact ⟨kept, rfl, ages.quiet.trans quiet, by grind, by grind, by grind⟩
      · rw [if_neg (by simpa using gone)] at run
        obtain ⟨kept, rfl, quiet, old, waits, stays⟩ := ih run
        exact ⟨kept, rfl, ages.quiet.trans quiet, old, by grind, stays⟩

theorem findFree_some (found : (findFree pending count nextId).1 = some id) : id ∉ pending := by
  induction count generalizing nextId with
  | zero => cases found
  | succ count ih =>
    rw [findFree] at found
    split at found
    · exact ih found
    · rename_i free
      cases found
      exact free

theorem findFree_none (full : (findFree pending count nextId).1 = none) (step : Nat) (within : step < count) :
    nextId + UInt8.ofNat step ∈ pending := by
  induction count generalizing nextId step with
  | zero => omega
  | succ count ih =>
    rw [findFree] at full
    split at full
    · rename_i taken
      cases step with
      | zero => simpa using taken
      | succ step =>
        have further := ih full step (by omega)
        have next : nextId + 1 + UInt8.ofNat step = nextId + UInt8.ofNat (step + 1) := by
          rw [UInt8.ofNat_add, UInt8.add_assoc, UInt8.add_comm 1]
          rfl
        rwa [next] at further
    · cases full

theorem length_of_full (full : (findFree pending 256 nextId).1 = none) : 256 ≤ pending.entries.length := by
  have every (id : UInt8) : id ∈ pending := by
    have taken := findFree_none full (id - nextId).toNat (UInt8.toNat_lt _)
    rwa [UInt8.ofNat_toNat, UInt8.add_comm, UInt8.sub_add_cancel] at taken
  have distinct : ((List.range 256).map UInt8.ofNat).Nodup := by
    refine List.Nodup.map_on (fun one below other small same => ?_) List.nodup_range
    have values := congrArg UInt8.toNat same
    rw [UInt8.toNat_ofNat_of_lt' (List.mem_range.mp below), UInt8.toNat_ofNat_of_lt' (List.mem_range.mp small)] at values
    exact values
  have shorter := (List.subperm_of_subset distinct fun id _ => every id).length_le
  simpa [AList.keys, List.keys] using shorter

def isWaiting (callers : Callers) (entry : Pending) : Bool :=
  entry.reply ∉ callers.gone

theorem Reclaimed.length_le (reclaimed : Reclaimed before after pending.keys pending kept) :
    kept.entries.length ≤ Maps.countValues (isWaiting before) pending := by
  refine le_of_le_of_eq ?_ List.countP_eq_length_filter.symm
  change _ ≤ (Maps.retain (isWaiting before) pending).entries.length
  apply Maps.length_le_of_subset
  intro id member
  obtain ⟨entry, found⟩ := Option.isSome_iff_exists.mp (AList.lookup_isSome.mpr member)
  have present := reclaimed.old id entry found
  have key : id ∈ pending.keys := AList.mem_keys.mp (AList.lookup_isSome.mp (by rw [present]; rfl))
  rw [← AList.lookup_isSome, Maps.lookup_retain, present]
  simp [Option.filter, isWaiting, reclaimed.waits id key entry found]

structure Allocated (before after : Callers) (connection : Connection) (found : Option UInt8) (next : Connection) : Prop where
  quiet : before.Quiet after
  old : ∀ id entry, next.pending.lookup id = some entry → connection.pending.lookup id = some entry
  stays : ∀ id entry, connection.pending.lookup id = some entry → entry.reply ∉ after.gone →
    next.pending.lookup id = some entry
  succeeds : Maps.countValues (isWaiting before) connection.pending < 256 → found.isSome = true
  free : ∀ id, found = some id → id ∉ next.pending

theorem allocIdentifier_runs {outcome : Except ConnectionEnd (Option UInt8 × Connection)}
    (run : Runs Performs (allocIdentifier connection) before outcome after) :
    ∃ found next, outcome = .ok (found, next) ∧ Allocated before after connection found next := by
  rw [allocIdentifier, runs_bind] at run
  rcases run with ⟨reason, _, failed⟩ | ⟨pending, middle, reclaims, run⟩
  · obtain ⟨_, impossible, _⟩ := reclaim_runs failed
    cases impossible
  obtain ⟨kept, same, reclaimed⟩ := reclaim_runs reclaims
  cases same
  rw [pure_eq, runs_done] at run
  obtain ⟨rfl, rfl⟩ := run
  refine ⟨_, _, rfl, reclaimed.quiet, reclaimed.old, reclaimed.stays, fun few => ?_, fun id found => findFree_some found⟩
  cases full : (findFree pending 256 connection.nextId).1 with
  | some id => rfl
  | none =>
    have many := length_of_full full
    have fewer := reclaimed.length_le
    omega

end Allocation

/-! ## What the connection does with its inputs -/

section Inputs

variable {digests : Digests} {before after : Callers} {connection : Connection} {frame : Octets} {job : CoaJob}
  {outcome : Except ConnectionEnd Connection} {id : UInt8}

theorem coaRequest_identifier {request : Packet} (made : coaRequest digests job id = .ok request) :
    request.identifier = id := by
  obtain ⟨_, _, same⟩ := Results.bind_eq_ok.mp made
  cases same
  rfl

theorem sendCoa_runs (run : Runs Performs (sendCoa digests job connection) before outcome after) :
    ∃ middle found next, Allocated before middle connection found next ∧ middle.Quiet after ∧
      ∀ final, outcome = .ok final → final.pending = next.pending ∨
        ∃ id request, found = some id ∧ coaRequest digests job id = .ok request ∧
          (some job.reply, request.bytes) ∈ after.written ∧
          final.pending = next.pending.insert id ⟨job.reply, request.authenticator⟩ := by
  rw [sendCoa, runs_bind] at run
  rcases run with ⟨reason, _, failed⟩ | ⟨⟨found, next⟩, middle, allocates, run⟩
  · obtain ⟨_, _, impossible, _⟩ := allocIdentifier_runs failed
    cases impossible
  obtain ⟨_, _, same, allocated⟩ := allocIdentifier_runs allocates
  cases same
  refine ⟨middle, found, next, allocated, ?_⟩
  cases found with
  | none =>
    simp only [ask_bind, runs_perform, pure_eq, runs_done] at run
    obtain ⟨_, _, hangsUp, rfl, rfl⟩ := run
    exact ⟨hangUp_quiet hangsUp, fun final same => .inl (by cases same; rfl)⟩
  | some id =>
    simp only [runs_check_bind] at run
    rcases run with ⟨reason, _, rfl, rfl⟩ | ⟨request, made, run⟩
    · exact ⟨.refl _, fun _ same => by cases same⟩
    have made : coaRequest digests job id = .ok request := by
      cases made' : coaRequest digests job id with
      | error reason => rw [made'] at made; cases made
      | ok packet => rw [made'] at made; cases made; rfl
    cases encoded : request.encode with
    | error reason =>
      simp only [encoded, ask_bind, runs_perform, pure_eq, runs_done] at run
      obtain ⟨_, _, hangsUp, rfl, rfl⟩ := run
      exact ⟨hangUp_quiet hangsUp, fun final same => .inl (by cases same; rfl)⟩
    | ok bytes =>
      obtain ⟨_, rfl⟩ := encode_eq_ok.mp encoded
      simp only [encoded, runs_bind] at run
      rcases run with ⟨reason, rfl, failed⟩ | ⟨_, written, writes, run⟩
      · exact ⟨(writeOut_runs failed).1, fun _ same => by cases same⟩
      · rw [pure_eq, runs_done] at run
        obtain ⟨rfl, rfl⟩ := run
        obtain ⟨quiet, sent⟩ := writeOut_runs writes
        exact ⟨quiet, fun final same => .inr ⟨id, request, rfl, made, sent rfl, by cases same; rfl⟩⟩

structure Solicited (digests : Digests) (connection : Connection) (frame : Octets) (packet : Packet) (entry : Pending) :
    Prop where
  decoded : decode frame = .ok packet
  reply : isReply packet.code = true
  waits : connection.pending.lookup packet.identifier = some entry
  signed : verifyResponseAuthenticator digests packet entry.requestAuthenticator radsecSecret = .ok true

inductive Dispatched (digests : Digests) (connection : Connection) (frame : Octets) (before : Callers) :
    Except ConnectionEnd Connection → Callers → Prop
  | unmoved {outcome : Except ConnectionEnd Connection} {after : Callers} (quiet : before.Quiet after)
      (same : ∀ next, outcome = .ok next → next = connection) : Dispatched digests connection frame before outcome after
  | delivered {packet : Packet} {entry : Pending} {between : Callers}
      (solicited : Solicited digests connection frame packet entry) (ages : before.Ages between) :
      Dispatched digests connection frame before
        (.ok { connection with pending := connection.pending.erase packet.identifier })
        (between.deliver entry.reply packet)

theorem routeReply_runs (identifier : frame.tail.head? = some id)
    (code : (frame.head?.bind Code.fromU8).any isReply = true)
    (run : Runs Performs (routeReply digests frame id connection) before outcome after) :
    (outcome = .ok connection ∧ after = before) ∨
      ∃ packet entry between, Solicited digests connection frame packet entry ∧ before.Ages between ∧
        outcome = .ok { connection with pending := connection.pending.erase packet.identifier } ∧
        after = between.deliver entry.reply packet := by
  unfold routeReply at run
  cases decoded : decode frame with
  | error reason =>
    simp only [decoded, pure_eq, runs_done] at run
    exact .inl run
  | ok packet =>
    obtain ⟨first, second⟩ : frame.head? = some packet.code.asU8 ∧ frame.tail.head? = some packet.identifier := by
      obtain ⟨_, rest, rfl⟩ := decode_eq_ok.mp decoded
      exact ⟨rfl, rfl⟩
    rw [identifier, Option.some.injEq] at second
    subst second
    rw [first, Option.bind_some, Code.fromU8_asU8] at code
    cases waits : connection.pending.lookup packet.identifier with
    | none =>
      simp only [decoded, waits, pure_eq, runs_done] at run
      exact .inl run
    | some entry =>
      obtain ⟨verified, signed⟩ : ∃ verified,
          verifyResponseAuthenticator digests packet entry.requestAuthenticator radsecSecret = .ok verified :=
        ⟨_, verifyResponseAuthenticator_of_fits _ _ (decode_eq_ok.mp decoded).1.fits⟩
      simp only [decoded, waits, signed, Except.mapError, runs_check_bind] at run
      rcases run with ⟨_, impossible, _⟩ | ⟨_, same, run⟩
      · cases impossible
      cases same
      cases verified with
      | true =>
        simp only [if_true, ask_bind, runs_perform, pure_eq, runs_done] at run
        obtain ⟨_, _, ⟨between, ages, rfl⟩, rfl, rfl⟩ := run
        exact .inr ⟨packet, entry, between, ⟨decoded, code, waits, signed⟩, ages, rfl, rfl⟩
      | false =>
        simp only [Bool.false_eq_true, if_false, pure_eq, runs_done] at run
        exact .inl run

theorem dispatchInbound_runs (run : Runs Performs (dispatchInbound digests frame connection) before outcome after) :
    Dispatched digests connection frame before outcome after := by
  simp only [dispatchInbound] at run
  by_cases code : (frame.head?.bind Code.fromU8).any isReply = true
  · rw [if_pos code] at run
    cases identifier : frame.tail.head? with
    | none =>
      simp only [identifier, fail_eq, runs_done] at run
      obtain ⟨rfl, rfl⟩ := run
      exact .unmoved (.refl _) (fun _ same => by cases same)
    | some id =>
      simp only [identifier] at run
      rcases routeReply_runs identifier code run with ⟨rfl, rfl⟩ | ⟨packet, entry, between, solicited, ages, rfl, rfl⟩
      · exact .unmoved (.refl _) (by intro next same; cases same; rfl)
      · exact .delivered solicited ages
  · rw [if_neg code, ask_bind, runs_perform] at run
    obtain ⟨answer, middle, ⟨_, ages, rfl⟩, run⟩ := run
    have stays {final : Callers} (quiet : middle.Quiet final) :
        Dispatched digests connection frame before (.ok connection) final :=
      .unmoved (ages.quiet.trans quiet) (by intro next same; cases same; rfl)
    cases answer with
    | error reason =>
      simp only [pure_eq, runs_done] at run
      obtain ⟨rfl, rfl⟩ := run
      exact stays (.refl _)
    | ok response =>
      cases response with
      | none =>
        simp only [pure_eq, runs_done] at run
        obtain ⟨rfl, rfl⟩ := run
        exact stays (.refl _)
      | some bytes =>
        simp only [runs_bind] at run
        rcases run with ⟨reason, rfl, failed⟩ | ⟨_, _, writes, run⟩
        · exact .unmoved (ages.quiet.trans (writeOut_runs failed).1) (fun _ same => by cases same)
        · rw [pure_eq, runs_done] at run
          obtain ⟨rfl, rfl⟩ := run
          exact stays (writeOut_runs writes).1

end Inputs

/-- The request was written on the connection for a job of the caller. -/
def Requested (digests : Digests) (inputs : List Input) (callers : Callers) (caller : Nat) (request : Packet) : Prop :=
  ∃ job id, .job job ∈ inputs ∧ job.reply = caller ∧ coaRequest digests job id = .ok request ∧
    (some caller, request.bytes) ∈ callers.written

def Owed (digests : Digests) (inputs : List Input) (callers : Callers) (caller : Nat) (packet : Packet) : Prop :=
  ∃ request, Requested digests inputs callers caller request ∧ packet.identifier = request.identifier ∧
    verifyResponseAuthenticator digests packet request.authenticator radsecSecret = .ok true

def Registered (digests : Digests) (inputs : List Input) (connection : Connection) (callers : Callers) : Prop :=
  ∀ id entry, connection.pending.lookup id = some entry →
    ∃ request, Requested digests inputs callers entry.reply request ∧ request.identifier = id ∧
      request.authenticator = entry.requestAuthenticator

/-- Every reply that was delivered came in on the connection and was owed to its
caller, and no caller got two. -/
structure Answered (digests : Digests) (inputs : List Input) (callers : Callers) : Prop where
  owed : ∀ delivery ∈ callers.delivered, Owed digests inputs callers delivery.1 delivery.2 ∧
    ∃ frame, .frame frame ∈ inputs ∧ decode frame = .ok delivery.2
  gone : ∀ delivery ∈ callers.delivered, delivery.1 ∈ callers.gone
  once : (callers.delivered.map Prod.fst).Nodup

section Life

variable {digests : Digests} {inputs more : List Input} {before after : Callers} {connection : Connection}
  {caller : Nat} {packet request : Packet} {outcome : Except ConnectionEnd Connection}

theorem Requested.mono (requested : Requested digests inputs before caller request) (longer : inputs ⊆ more)
    (written : before.written ⊆ after.written) : Requested digests more after caller request := by
  obtain ⟨job, id, taken, own, made, sent⟩ := requested
  exact ⟨job, id, longer taken, own, made, written sent⟩

theorem Owed.mono (owed : Owed digests inputs before caller packet) (longer : inputs ⊆ more)
    (written : before.written ⊆ after.written) : Owed digests more after caller packet := by
  obtain ⟨request, requested, own⟩ := owed
  exact ⟨request, requested.mono longer written, own⟩

theorem Registered.mono (registered : Registered digests inputs connection before) (longer : inputs ⊆ more)
    (written : before.written ⊆ after.written) : Registered digests more connection after := by
  intro id entry found
  obtain ⟨request, requested, own⟩ := registered id entry found
  exact ⟨request, requested.mono longer written, own⟩

theorem Answered.quiet (answered : Answered digests inputs before) (longer : inputs ⊆ more)
    (quiet : before.Quiet after) : Answered digests more after := by
  refine ⟨fun delivery member => ?_, fun delivery member => ?_, ?_⟩
  · rw [quiet.delivered] at member
    obtain ⟨owed, frame, taken, decoded⟩ := answered.owed delivery member
    exact ⟨owed.mono longer quiet.written, frame, longer taken, decoded⟩
  · rw [quiet.delivered] at member
    exact quiet.gone (answered.gone delivery member)
  · rw [quiet.delivered]
    exact answered.once

theorem Registered.owed {frame : Octets} {entry : Pending} (registered : Registered digests inputs connection before)
    (solicited : Solicited digests connection frame packet entry) : Owed digests inputs before entry.reply packet := by
  obtain ⟨request, requested, identifier, authenticator⟩ := registered _ _ solicited.waits
  refine ⟨request, requested, identifier.symm, ?_⟩
  rw [authenticator]
  exact solicited.signed

theorem Answered.delivered {frame : Octets} (answered : Answered digests inputs before) (taken : .frame frame ∈ inputs)
    (decoded : decode frame = .ok packet) (owed : Owed digests inputs before caller packet) :
    Answered digests inputs (before.deliver caller packet) := by
  unfold deliver
  split
  · exact answered
  · rename_i waiting
    refine ⟨fun delivery member => ?_, fun delivery member => ?_, ?_⟩
    · rcases List.mem_cons.mp member with rfl | old
      · exact ⟨owed.mono (List.Subset.refl _) (List.Subset.refl _), frame, taken, decoded⟩
      · obtain ⟨earlier, arrived⟩ := answered.owed delivery old
        exact ⟨earlier.mono (List.Subset.refl _) (List.Subset.refl _), arrived⟩
    · rcases List.mem_cons.mp member with rfl | old
      · exact List.mem_cons_self
      · exact List.mem_cons_of_mem _ (answered.gone delivery old)
    · refine List.nodup_cons.mpr ⟨fun again => ?_, answered.once⟩
      obtain ⟨delivery, member, same⟩ := List.mem_map.mp again
      have own : delivery.1 = caller := same
      exact waiting (own ▸ answered.gone delivery member)

theorem deliver_written (callers : Callers) : (callers.deliver caller packet).written = callers.written := by
  unfold deliver
  split <;> rfl

theorem take_keeps {input : Input} (registered : Registered digests inputs connection before)
    (answered : Answered digests inputs before)
    (run : Runs Performs (take digests input connection) before outcome after) :
    Answered digests (inputs ++ [input]) after ∧
      ∀ next, outcome = .ok next → Registered digests (inputs ++ [input]) next after := by
  have longer : inputs ⊆ inputs ++ [input] := List.subset_append_left _ _
  have last : input ∈ inputs ++ [input] := List.mem_append_right _ List.mem_cons_self
  cases input with
  | frame frame =>
    cases dispatchInbound_runs run with
    | unmoved quiet same =>
      refine ⟨answered.quiet longer quiet, fun next ended => ?_⟩
      rw [same next ended]
      exact registered.mono longer quiet.written
    | @delivered packet entry between solicited ages =>
      have waiting := registered.mono longer ages.quiet.written
      refine ⟨(answered.quiet longer ages.quiet).delivered last solicited.decoded (waiting.owed solicited), ?_⟩
      intro next ended id held found
      cases ended
      obtain ⟨request, requested, own⟩ := waiting id held (by grind)
      exact ⟨request, requested.mono (List.Subset.refl _) (by rw [deliver_written]; exact List.Subset.refl _), own⟩
  | job job =>
    obtain ⟨middle, found, next, allocated, quiet, final⟩ := sendCoa_runs run
    have whole := allocated.quiet.trans quiet
    refine ⟨answered.quiet longer whole, fun ended same id entry present => ?_⟩
    have kept (held : next.pending.lookup id = some entry) :=
      (registered.mono longer whole.written) id entry (allocated.old id entry held)
    rcases final ended same with unchanged | ⟨own, request, _, made, written, added⟩
    · rw [unchanged] at present
      exact kept present
    · rw [added, Maps.lookup_insert] at present
      split at present
      · cases present
        exact ⟨request, ⟨job, own, last, rfl, made, written⟩, by grind [coaRequest_identifier made], rfl⟩
      · exact kept present

theorem serve_keeps {past : List Input} (registered : Registered digests past connection before)
    (answered : Answered digests past before)
    (run : Runs Performs (serve digests inputs connection) before outcome after) :
    Answered digests (past ++ inputs) after ∧
      ∀ next, outcome = .ok next → Registered digests (past ++ inputs) next after := by
  induction inputs generalizing past connection before with
  | nil =>
    rw [serve, pure_eq, runs_done] at run
    obtain ⟨rfl, rfl⟩ := run
    rw [List.append_nil]
    refine ⟨answered, fun next same => ?_⟩
    cases same
    exact registered
  | cons input rest ih =>
    rw [serve, runs_bind] at run
    rcases run with ⟨reason, rfl, failed⟩ | ⟨next, middle, takes, run⟩
    · have longer : past ++ [input] ⊆ past ++ input :: rest := by simp
      exact ⟨(take_keeps registered answered failed).1.quiet longer (.refl _), nofun⟩
    · obtain ⟨stillAnswered, stillRegistered⟩ := take_keeps registered answered takes
      have onward := ih (stillRegistered next rfl) stillAnswered run
      rw [List.append_assoc] at onward
      exact onward

end Life

/-- What holds at every point in the life of a connection, for any digests, for the
next frame and the next allocation. A frame is delivered to the caller that waits
under its Identifier, and signed for the request written for that caller. -/
structure Faithful (digests : Digests) (inputs : List Input) (connection : Connection) (callers : Callers) : Prop where
  routed : ∀ frame outcome after, Runs Performs (dispatchInbound digests frame connection) callers outcome after →
    after.delivered = callers.delivered ∨
      ∃ packet entry request, after.delivered = (entry.reply, packet) :: callers.delivered ∧
        entry.reply ∉ callers.gone ∧ Solicited digests connection frame packet entry ∧
        Requested digests inputs callers entry.reply request ∧ request.identifier = packet.identifier ∧
        request.authenticator = entry.requestAuthenticator
  inert : ∀ frame outcome after, (∀ packet entry, ¬ Solicited digests connection frame packet entry) →
    Runs Performs (dispatchInbound digests frame connection) callers outcome after →
    after.delivered = callers.delivered ∧ ∀ next, outcome = .ok next → next = connection
  allocates : ∀ outcome after, Runs Performs (allocIdentifier connection) callers outcome after →
    ∃ found next, outcome = .ok (found, next) ∧
      (Maps.countValues (isWaiting callers) connection.pending < 256 → found.isSome = true) ∧
      ∀ id, found = some id → ∀ entry, connection.pending.lookup id = some entry → entry.reply ∈ after.gone

theorem Registered.faithful {digests : Digests} {inputs : List Input} {callers : Callers}
    (registered : Registered digests inputs connection callers) : Faithful digests inputs connection callers := by
  refine ⟨fun frame outcome after dispatched => ?_, fun frame outcome after stray dispatched => ?_,
    fun outcome after allocated => ?_⟩
  · cases dispatchInbound_runs dispatched with
    | unmoved quiet same => exact .inl quiet.delivered
    | @delivered packet entry between solicited ages =>
      unfold deliver
      split
      · exact .inl ages.delivered
      · rename_i waiting
        obtain ⟨request, requested, own⟩ := registered _ _ solicited.waits
        exact .inr ⟨packet, entry, request, by rw [ages.delivered], fun gone => waiting (ages.gone gone), solicited,
          requested, own⟩
  · cases dispatchInbound_runs dispatched with
    | unmoved quiet same => exact ⟨quiet.delivered, same⟩
    | delivered solicited ages => exact absurd solicited (stray _ _)
  · obtain ⟨found, next, rfl, allocation⟩ := allocIdentifier_runs allocated
    refine ⟨found, next, rfl, allocation.succeeds, fun id own entry present => ?_⟩
    by_contra waiting
    have kept := allocation.stays id entry present waiting
    exact allocation.free id own (AList.lookup_isSome.mp (by rw [kept]; rfl))

theorem coaReplies_faithful (digests : Digests) {gone : List Nat} {inputs : List Input} {callers : Callers}
    {outcome : Except ConnectionEnd Connection}
    (run : Runs Performs (serve digests inputs .new) ⟨gone, [], []⟩ outcome callers) :
    Answered digests inputs callers ∧
      ∀ connection, outcome = .ok connection → Faithful digests inputs connection callers := by
  have initially : Registered digests [] .new ⟨gone, [], []⟩ := by
    intro id entry found
    cases found
  obtain ⟨answered, registered⟩ := serve_keeps initially
    ⟨fun _ none => absurd none List.not_mem_nil, fun _ none => absurd none List.not_mem_nil, .nil⟩ run
  rw [List.nil_append] at answered registered
  exact ⟨answered, fun connection ended => (registered connection ended).faithful⟩

section Sample

/-- The steps when no caller times out and every write succeeds. -/
def Callers.perform : (Answer : Type) → ConnectionStep Answer → Callers → Answer × Callers
  | _, .isClosed caller, callers => (decide (caller ∈ callers.gone), callers)
  | _, .reply caller packet, callers => ((), callers.deliver caller packet)
  | _, .hangUp caller, callers => ((), { callers with gone := caller :: callers.gone })
  | _, .write caller bytes, callers => (true, { callers with written := (caller, bytes) :: callers.written })
  | _, .processRequest _, callers => (.ok none, callers)

theorem perform_performs (Answer : Type) (effect : ConnectionStep Answer) (callers : Callers) :
    Performs Answer effect callers (callers.perform Answer effect).1 (callers.perform Answer effect).2 := by
  refine ⟨callers, ⟨List.Subset.refl _, rfl, rfl⟩, ?_⟩
  cases effect with
  | isClosed caller => exact ⟨rfl, rfl⟩
  | _ => rfl

def disconnectJob (caller : Nat) : CoaJob := ⟨.new .disconnectRequest 0 (.zero 16), caller⟩

/-- The reply to the second of two equal requests. -/
def disconnectAck : Packet :=
  let request := (coaRequest .checksum (disconnectJob 8) 1).toOption.getD (disconnectJob 8).request
  let unsigned := new .disconnectAck 1 (.zero 16)
  { unsigned with authenticator := responseDigest .checksum unsigned request.authenticator radsecSecret }

def sampleInputs : List Input :=
  [.job (disconnectJob 7), .job (disconnectJob 8), .frame disconnectAck.bytes]

theorem disconnectAck_delivered :
    ∃ outcome callers, Runs Performs (serve .checksum sampleInputs .new) ⟨[], [], []⟩ outcome callers ∧
      callers.delivered = [(8, disconnectAck)] ∧ Answered .checksum sampleInputs callers := by
  have run := eval_runs perform_performs (serve .checksum sampleInputs .new) ⟨[], [], []⟩
  exact ⟨_, _, run, by decide +kernel, (coaReplies_faithful .checksum run).1⟩

end Sample

end UsgRadius.Radsec
