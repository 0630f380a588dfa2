import UsgRadius.Auth.Ldap

namespace UsgRadius.LdapAuthHandler

open Data Program Ldap

/-! What it takes for a successful `authenticate` to prove the password of the
user that was named. -/

variable {config : LdapConfig} {directory : Directory} {before after : World} {username password : String}

/-- The filter of the configuration, with the user's name as an assertion value,
selects the entry. -/
def Names (config : LdapConfig) (username : String) (holds : Assertion → Option Bool) : Prop :=
  ∃ text filter, valueOf text = some (utf8 username) ∧ parse (filterText config text) = some filter ∧
    filter.selects holds = true

/-- The password is not empty, and it was proved in a bind as an entry of the
user. -/
def Proved (config : LdapConfig) (directory : Directory) (username password : String) (after : World) : Prop :=
  password ≠ "" ∧ ∃ entry ∈ directory.entries, Names config username entry.holds ∧ (entry.dn, password) ∈ after.bound

/-- Whatever the directory holds: the name, put into the filter as it is, selects
only entries of the user, and a bind as one of them takes a password. -/
def Careful (config : LdapConfig) (username password : String) : Prop :=
  ∀ filter, parse (filterText config (utf8 username)) = some filter → ∀ holds, filter.selects holds = true →
    password ≠ "" ∧ Names config username holds

/-- A name without NUL, parentheses, asterisk and backslash is careful with any
password that is not empty. -/
theorem careful_of_normal (given : password ≠ "") (normal : ∀ octet ∈ utf8 username, isNormal octet = true) :
    Careful config username password :=
  fun filter parsed _ selected => ⟨given, utf8 username, filter, valueOf_normal normal, parsed, selected⟩

/-- There is a server to ask and a place for a connection. -/
def Usable (config : LdapConfig) : Prop :=
  config.getServerUrls ≠ [] ∧ 0 < config.maxConnections

section Successes

variable {outcome : Except Empty (Except LdapError Unit)} {lastError : Option LdapError} {servers : List String}
  {userDn : String}

theorem acquireFrom_runs
    (run : Runs (Performs config directory) (acquireFrom config lastError servers) before outcome after)
    (acquired : outcome = .ok (.ok ())) : servers ≠ [] := by
  intro none
  subst none
  simp only [acquireFrom, pure_eq, runs_done] at run
  simp [acquired] at run

theorem acquire_runs (run : Runs (Performs config directory) (acquire config) before outcome after)
    (acquired : outcome = .ok (.ok ())) : Usable config := by
  simp only [acquire, ask_bind, runs_perform] at run
  obtain ⟨answer, permitted, ⟨_, places⟩, run⟩ := run
  cases answer with
  | error reason => simp [acquired] at run
  | ok _ =>
    rcases runs_bind.mp run with ⟨impossible, _⟩ | ⟨servers, sorted, prioritized, rest⟩
    · exact impossible.elim
    · refine ⟨fun none => acquireFrom_runs rest acquired ?_, places rfl⟩
      simp only [getPrioritizedServers, none, sortServers, pure_eq, ok_bind, runs_done] at prioritized
      simpa using prioritized.1

theorem findUser_runs {outcome : Except Empty (Except LdapError String)}
    (run : Runs (Performs config directory) (findUser config username) before outcome after)
    (found : outcome = .ok (.ok userDn)) :
    Usable config ∧ ∃ entry ∈ directory.entries, entry.dn = userDn ∧
      ∃ filter, parse (filterText config (utf8 username)) = some filter ∧ filter.selects entry.holds = true := by
  rcases runs_bind.mp run with ⟨impossible, _⟩ | ⟨acquired, between, acquiring, rest⟩
  · exact impossible.elim
  · cases acquired with
    | error reason => simp [found] at rest
    | ok _ =>
      simp only [ask_bind, runs_perform] at rest
      obtain ⟨answer, searched, ⟨_, exactly⟩, rest⟩ := rest
      cases answer with
      | error reason => simp [found] at rest
      | ok entries =>
        obtain ⟨filter, parsed, same⟩ := exactly entries rfl
        cases entries with
        | nil => simp [found] at rest
        | cons entry others =>
          simp only [pure_eq, runs_done, found] at rest
          have member : entry ∈ directory.matching config.baseDn filter := same.subset List.mem_cons_self
          have selected := List.mem_filter.mp member
          simp only [Bool.and_eq_true] at selected
          refine ⟨acquire_runs acquiring rfl, entry, selected.1, ?_, filter, parsed, selected.2.2⟩
          simpa using rest.1.symm

theorem connectFrom_runs
    (run : Runs (Performs config directory) (connectFrom userDn password lastError servers) before outcome after)
    (connected : outcome = .ok (.ok ())) : (userDn, password) ∈ after.bound := by
  induction servers generalizing before lastError with
  | nil =>
    simp only [connectFrom, pure_eq, runs_done] at run
    simp [connected] at run
  | cons serverUrl rest ih =>
    simp only [connectFrom, ask_bind, runs_perform] at run
    obtain ⟨answer, opened, _, run⟩ := run
    cases answer with
    | error reason =>
      simp only [runs_perform] at run
      obtain ⟨_, _, _, run⟩ := run
      exact ih run
    | ok _ =>
      simp only [runs_perform] at run
      obtain ⟨result, asked, bound, run⟩ := run
      cases result with
      | error reason =>
        simp only [runs_perform] at run
        obtain ⟨_, _, _, run⟩ := run
        exact ih run
      | ok result =>
        cases result with
        | error reason => simp [connected] at run
        | ok _ =>
          simp only [runs_perform] at run
          obtain ⟨_, recorded, kept, run⟩ := run
          simp only [pure_eq, runs_done] at run
          rw [run.2, show recorded = _ from kept, bound.2]
          exact List.mem_cons_self

/-- What a successful call has seen: an entry that the filter with the name as it
is selects, and a bind as that entry. -/
theorem authenticate_runs (run : Runs (Performs config directory) (authenticate config username password) before
    (.ok true) after) :
    Usable config ∧ ∃ entry ∈ directory.entries, (entry.dn, password) ∈ after.bound ∧
      ∃ filter, parse (filterText config (utf8 username)) = some filter ∧ filter.selects entry.holds = true := by
  rcases runs_bind.mp run with ⟨impossible, _⟩ | ⟨found, between, finding, rest⟩
  · exact impossible.elim
  · cases found with
    | error reason => simp at rest
    | ok userDn =>
      obtain ⟨usable, entry, member, rfl, selected⟩ := findUser_runs finding rfl
      rcases runs_bind.mp rest with ⟨impossible, _⟩ | ⟨connected, bound, connecting, rest⟩
      · exact impossible.elim
      · cases connected with
        | error reason => simp at rest
        | ok _ =>
          simp only [pure_eq, runs_done] at rest
          rw [rest.2]
          rcases runs_bind.mp connecting with ⟨impossible, _⟩ | ⟨servers, _, _, connecting⟩
          · exact impossible.elim
          · exact ⟨usable, entry, member, connectFrom_runs connecting rfl, selected⟩

end Successes

section Answering

def openDirectory (holds : Assertion → Option Bool) : Directory where
  entries := [⟨"", holds⟩]
  within := fun _ _ => true
  checks := fun _ _ => true

def answering (directory : Directory) : (Answer : Type) → Effect Answer → World → Option (Answer × World)
  | _, .acquirePermit, world => some (.ok (), world)
  | _, .serverHealth url, world => some (world.health.lookup url, world)
  | _, .recordSuccess url, world => some ((), world.record .succeeded url)
  | _, .recordFailure url, world => some ((), world.record .failed url)
  | _, .connect _, world => some (.ok (), world)
  | _, .simpleBind dn password, world =>
    if directory.binds dn password then some (.ok (.ok ()), { world with bound := (dn, password) :: world.bound })
    else some (.ok (.error "invalid credentials"), world)
  | _, .search baseDn text, world =>
    match parse text with
    | some filter => some (.ok (directory.matching baseDn filter), world)
    | none => some (.error "filter", world)

variable {holds : Assertion → Option Bool}

theorem openDirectory_binds (dn password : String) : (openDirectory holds).binds dn password = true :=
  Bool.or_true _

theorem answering_performs (usable : Usable config) (Answer : Type) (effect : Effect Answer) (before : World)
    (answer : Answer) (after : World) (answered : answering directory Answer effect before = some (answer, after)) :
    Performs config directory Answer effect before answer after := by
  cases effect with
  | acquirePermit =>
    cases answered
    exact ⟨rfl, fun _ => usable.2⟩
  | serverHealth url =>
    cases answered
    exact ⟨rfl, rfl⟩
  | simpleBind dn password =>
    simp only [answering] at answered
    split at answered
    · rename_i accepted
      cases answered
      exact ⟨accepted, rfl⟩
    · rename_i refused
      cases answered
      exact ⟨by simpa using refused, rfl⟩
  | search baseDn text =>
    simp only [answering] at answered
    split at answered
    · rename_i filter parsed
      cases answered
      refine ⟨rfl, fun found same => ⟨filter, parsed, ?_⟩⟩
      cases same
      exact .refl _
    · cases answered
      exact ⟨rfl, fun _ impossible => by cases impossible⟩
  | _ =>
    cases answered
    rfl

theorem sortServers_exec (directory : Directory) (urls : List String) (world : World) :
    ∃ up down, (sortServers urls).exec (answering directory) world = some (.ok (up, down), world) ∧
      (up ++ down).length = urls.length := by
  induction urls with
  | nil => exact ⟨[], [], rfl, rfl⟩
  | cons url rest ih =>
    obtain ⟨up, down, sorted, length⟩ := ih
    obtain ⟨healthy, asked⟩ : ∃ healthy, (isServerHealthy url).exec (answering directory) world =
        some (.ok healthy, world) := ⟨_, rfl⟩
    unfold sortServers
    rw [exec_bind asked, exec_bind sorted]
    cases healthy with
    | true => exact ⟨url :: up, down, rfl, by simpa using length⟩
    | false =>
      refine ⟨up, url :: down, rfl, ?_⟩
      simp only [List.length_append, List.length_cons] at length ⊢
      omega

theorem getPrioritizedServers_exec (directory : Directory) (usable : Usable config) (world : World) :
    ∃ first rest, (getPrioritizedServers config).exec (answering directory) world = some (.ok (first :: rest), world) := by
  obtain ⟨up, down, sorted, length⟩ := sortServers_exec directory config.getServerUrls world
  have some : up ++ down ≠ [] := by
    intro none
    rw [none] at length
    exact usable.1 (List.length_eq_zero_iff.mp length.symm)
  obtain ⟨first, rest, split⟩ := List.exists_cons_of_ne_nil some
  refine ⟨first, rest, ?_⟩
  unfold getPrioritizedServers
  rw [exec_bind sorted]
  dsimp only
  rw [split]
  rfl

theorem acquire_exec (usable : Usable config) (world : World) :
    ∃ after, (acquire config).exec (answering (openDirectory holds)) world = some (.ok (.ok ()), after) := by
  obtain ⟨first, rest, prioritized⟩ := getPrioritizedServers_exec (openDirectory holds) usable world
  unfold acquire
  rw [exec_ask rfl, exec_bind prioritized]
  unfold acquireFrom tryConnectAndBind
  cases config.bindDn <;> cases config.bindPassword <;>
    exact ⟨_, by simp [bindOrFail, exec, answering, openDirectory_binds]; rfl⟩

theorem connectForAuth_exec (usable : Usable config) (userDn password : String) (world : World) :
    ∃ after, (connectForAuth config userDn password).exec (answering (openDirectory holds)) world =
      some (.ok (.ok ()), after) := by
  obtain ⟨first, rest, prioritized⟩ := getPrioritizedServers_exec (openDirectory holds) usable world
  unfold connectForAuth
  rw [exec_bind prioritized]
  exact ⟨_, by simp [connectFrom, exec, answering, openDirectory_binds]; rfl⟩

theorem authenticate_exec {filter : Filter} (usable : Usable config)
    (parsed : parse (filterText config (utf8 username)) = some filter) (selected : filter.selects holds = true)
    (world : World) : ∃ after, (authenticate config username password).exec (answering (openDirectory holds)) world =
      some (.ok true, after) := by
  obtain ⟨between, acquired⟩ : ∃ after, (acquire config).exec (answering (openDirectory holds)) world =
      some (.ok (.ok ()), after) := acquire_exec usable world
  have found : (findUser config username).exec (answering (openDirectory holds)) world = some (.ok (.ok ""), between) := by
    unfold findUser
    rw [exec_bind acquired]
    simp [exec, answering, parsed, Directory.matching, openDirectory, selected]
  obtain ⟨after, connected⟩ : ∃ after, (connectForAuth config "" password).exec (answering (openDirectory holds))
      between = some (.ok (.ok ()), after) := connectForAuth_exec usable "" password between
  refine ⟨after, ?_⟩
  unfold authenticate
  rw [exec_bind found]
  exact exec_bind connected

end Answering

/-- A successful call proves the password of the named user in every directory
exactly if no call can succeed or the name and the password are careful ones. -/
theorem authenticate_proves_iff (config : LdapConfig) (username password : String) :
    (∀ directory before after,
      Runs (Performs config directory) (authenticate config username password) before (.ok true) after →
        Proved config directory username password after) ↔
      (Usable config → Careful config username password) := by
  refine ⟨?_, ?_⟩
  · intro proves usable filter parsed holds selected
    obtain ⟨after, ran⟩ := authenticate_exec usable parsed selected ⟨∅, []⟩
    have run := exec_runs (answering_performs usable) ran
    obtain ⟨given, entry, member, names, _⟩ := proves (openDirectory holds) ⟨∅, []⟩ after run
    cases List.mem_singleton.mp member
    exact ⟨given, names⟩
  · intro careful directory before after run
    obtain ⟨usable, entry, member, bound, filter, parsed, selected⟩ := authenticate_runs run
    obtain ⟨given, names⟩ := careful usable filter parsed entry.holds selected
    exact ⟨given, entry, member, names, bound⟩

def sampleConfig : LdapConfig where
  url := "ldap://localhost:389"
  urls := []
  baseDn := "dc=example,dc=com"
  bindDn := none
  bindPassword := none
  searchFilter := "(uid={username})"
  maxConnections := 10

/-- Alice's entry, whose password is `secret`. -/
def sampleDirectory : Directory where
  entries := [{
    dn := "uid=alice,dc=example,dc=com"
    holds := fun assertion =>
      match assertion with
      | .equality attr value => some (attr == utf8 "uid" && value == utf8 "alice")
      | .present attr => some (attr == utf8 "uid")
      | _ => none }]
  within := fun _ _ => true
  checks := fun dn password => dn == "uid=alice,dc=example,dc=com" && password == "secret"

/-- Alice is authenticated without a password, and whoever knows that password
under every name. -/
theorem sampleDirectory_unproved :
    (∃ after, Runs (Performs sampleConfig sampleDirectory) (authenticate sampleConfig "alice" "") ⟨∅, []⟩ (.ok true)
        after ∧ ¬ Proved sampleConfig sampleDirectory "alice" "" after) ∧
      ∃ after, Runs (Performs sampleConfig sampleDirectory) (authenticate sampleConfig "*" "secret") ⟨∅, []⟩ (.ok true)
        after ∧ ¬ Proved sampleConfig sampleDirectory "*" "secret" after := by
  have runs (username password : String)
      (accepted : (((authenticate sampleConfig username password).exec (answering sampleDirectory) ⟨∅, []⟩).elim false
        fun reached => reached.1.toOption.getD false) = true) :
      ∃ after, Runs (Performs sampleConfig sampleDirectory) (authenticate sampleConfig username password) ⟨∅, []⟩
        (.ok true) after := by
    cases ran : (authenticate sampleConfig username password).exec (answering sampleDirectory) ⟨∅, []⟩ with
    | none => simp [ran] at accepted
    | some reached =>
      obtain ⟨outcome, after⟩ := reached
      cases outcome with
      | error impossible => exact impossible.elim
      | ok result =>
        simp only [ran, Option.elim_some, Except.toOption, Option.getD_some] at accepted
        rw [accepted] at ran
        exact ⟨after, exec_runs (answering_performs ⟨by decide, by decide⟩) ran⟩
  obtain ⟨first, emptyRun⟩ := runs "alice" "" (by decide +kernel)
  obtain ⟨second, wildRun⟩ := runs "*" "secret" (by decide +kernel)
  refine ⟨⟨first, emptyRun, fun proved => proved.1 rfl⟩, second, wildRun, ?_⟩
  intro ⟨_, entry, member, ⟨text, filter, stands, parsed, selected⟩, _⟩
  cases List.mem_singleton.mp member
  -- however the asterisk is spelt, it is looked for as a value
  have meant : parse (filterText sampleConfig text) = some (.item (.equality (utf8 "uid") (utf8 "*"))) := by
    rcases valueOf_asterisk stands with rfl | rfl <;> decide +kernel
  cases Option.some.inj (meant.symm.trans parsed)
  exact absurd selected (by decide +kernel)

end UsgRadius.LdapAuthHandler
