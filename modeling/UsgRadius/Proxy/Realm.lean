import Mathlib.Data.List.Basic

namespace UsgRadius.Proxy

/-! Realms in user names: `user@realm` and `realm\user`. -/

section Marks

variable {Item : Type} [DecidableEq Item] {mark : Item} {text before behind : List Item}

/-- What stands before and behind the first `mark`. -/
def splitAtFirst (mark : Item) : List Item → Option (List Item × List Item)
  | [] => none
  | item :: rest =>
    if item = mark then some ([], rest)
    else (splitAtFirst mark rest).map fun (before, behind) => (item :: before, behind)

def splitAtLast (mark : Item) (text : List Item) : Option (List Item × List Item) :=
  (splitAtFirst mark text.reverse).map fun (behind, before) => (before.reverse, behind.reverse)

theorem splitAtFirst_none (none : splitAtFirst mark text = none) : mark ∉ text := by
  induction text with
  | nil => exact List.not_mem_nil
  | cons item rest ih =>
    unfold splitAtFirst at none
    split at none
    · cases none
    · rename_i other
      exact List.not_mem_cons_of_ne_of_not_mem (Ne.symm other) (ih (Option.map_eq_none_iff.mp none))

theorem splitAtFirst_some (parts : splitAtFirst mark text = some (before, behind)) :
    text = before ++ mark :: behind ∧ mark ∉ before := by
  induction text generalizing before with
  | nil => cases parts
  | cons item rest ih =>
    unfold splitAtFirst at parts
    split at parts
    · cases parts
      rename_i same
      exact ⟨by rw [same]; rfl, List.not_mem_nil⟩
    · rename_i other
      obtain ⟨⟨first, last⟩, later, same⟩ := Option.map_eq_some_iff.mp parts
      cases same
      obtain ⟨rfl, absent⟩ := ih later
      exact ⟨rfl, List.not_mem_cons_of_ne_of_not_mem (Ne.symm other) absent⟩

theorem splitAtLast_none (none : splitAtLast mark text = none) : mark ∉ text :=
  fun member => splitAtFirst_none (Option.map_eq_none_iff.mp none) (List.mem_reverse.mpr member)

theorem splitAtLast_some (parts : splitAtLast mark text = some (before, behind)) :
    text = before ++ mark :: behind ∧ mark ∉ behind := by
  obtain ⟨⟨last, first⟩, found, same⟩ := Option.map_eq_some_iff.mp parts
  cases same
  obtain ⟨whole, absent⟩ := splitAtFirst_some found
  exact ⟨by rw [← text.reverse_reverse, whole]; simp, by simpa using absent⟩

end Marks

/-- An empty realm is none. -/
def extractRealm (username : String) : Option String :=
  let behindAt := (splitAtLast '@' username.toList).map Prod.snd
  let beforeBackslash := (splitAtFirst '\\' username.toList).map Prod.fst
  (behindAt.filter (· ≠ []) <|> beforeBackslash.filter (· ≠ [])).map String.ofList

def stripRealm (username : String) : String :=
  match splitAtLast '@' username.toList with
  | some (user, _) => String.ofList user
  | none =>
    match splitAtFirst '\\' username.toList with
    | some (_, user) => String.ofList user
    | none => username

inductive RealmMatcher where
  | exact (pattern : String)
  | suffix (pattern : String)
  /-- A compiled pattern, by what it matches. -/
  | regex (isMatch : String → Bool)

def RealmMatcher.matches : RealmMatcher → String → Bool
  | .exact pattern, realm => realm = pattern
  | .suffix pattern, realm => pattern.toList.isSuffixOf realm.toList
  | .regex isMatch, realm => isMatch realm

structure Realm (Pool : Type) where
  matcher : RealmMatcher
  pool : Pool
  stripRealm : Bool

/-- `route_request` for a name with a realm that is configured: the pool to select
from, and the name to forward instead. -/
def routeRealm {Pool : Type} (realms : List (Realm Pool)) (username : String) : Option (Pool × Option String) := do
  let realm ← extractRealm username
  let configured ← realms.find? (·.matcher.matches realm)
  return (configured.pool, if configured.stripRealm then some (stripRealm username) else none)

/-- The name is the user's with the realm behind an `@` or in front of a `\`. -/
def Joins (username user realm : String) : Prop :=
  username = user ++ "@" ++ realm ∨ username = realm ++ "\\" ++ user

/-- What is extracted and what is left are the name's two parts. -/
def Consistent (username : String) : Prop :=
  match extractRealm username with
  | some realm => Joins username (stripRealm username) realm
  | none => stripRealm username = username

section Forms

variable {username : String}

theorem joins_iff {user realm : List Char} : Joins username (.ofList user) (.ofList realm) ↔
    username.toList = user ++ '@' :: realm ∨ username.toList = realm ++ '\\' :: user := by
  simp [Joins, ← String.toList_inj]

theorem extractRealm_nonempty {realm : String} (extracted : extractRealm username = some realm) :
    realm.toList ≠ [] := by
  obtain ⟨text, found, rfl⟩ := Option.map_eq_some_iff.mp extracted
  rw [String.toList_ofList]
  simp only [Option.orElse_eq_orElse, Option.orElse_eq_or, Option.or_eq_some_iff, Option.filter_eq_some_iff,
    decide_eq_true_eq] at found
  exact found.elim And.right fun later => later.2.2

/-- Where only a separator is stripped, no realm that was extracted is. -/
theorem not_consistent (cut : username.toList.length = (stripRealm username).toList.length + 1) :
    ¬ Consistent username := by
  intro consistent
  unfold Consistent at consistent
  split at consistent
  next realm extracted =>
    have named := List.length_pos_iff.mpr (extractRealm_nonempty extracted)
    have lengths := consistent.imp (congrArg (·.toList.length)) (congrArg (·.toList.length))
    simp only [String.toList_append, List.length_append] at lengths
    simp at lengths
    omega
  next =>
    rw [consistent] at cut
    omega

theorem consistent_of_parts {user realm : List Char} (strip : stripRealm username = .ofList user)
    (extract : realm ≠ [] → extractRealm username = some (.ofList realm))
    (whole : username.toList = user ++ '@' :: realm ∨ username.toList = realm ++ '\\' :: user) :
    Consistent username ↔ realm ≠ [] := by
  by_cases empty : realm = []
  · have cut : username.toList.length = (stripRealm username).toList.length + 1 := by
      rcases whole with whole | whole <;> simp [strip, whole, empty]
    exact iff_of_false (not_consistent cut) fun named => named empty
  · simp only [Consistent, extract empty, strip, joins_iff, whole, ne_eq, empty, not_false_eq_true]

end Forms

/-- The two scans agree exactly on names that do not end in an `@`, and have one if
they begin with a `\`; the name forwarded for such a name is the user's of the
realm that was routed on. -/
theorem realm_consistent {Pool : Type} (username : String) :
    (Consistent username ↔ username.toList.getLast? ≠ some '@' ∧
      ('@' ∈ username.toList ∨ username.toList.head? ≠ some '\\')) ∧
    (Consistent username → ∀ (realms : List (Realm Pool)) (pool : Pool) (user : String),
      routeRealm realms username = some (pool, some user) →
        ∃ configured ∈ realms, configured.pool = pool ∧ ∃ realm, extractRealm username = some realm ∧
          configured.matcher.matches realm = true ∧ Joins username user realm) := by
  refine ⟨?_, ?_⟩
  · cases last : splitAtLast '@' username.toList with
    | some parts =>
      obtain ⟨whole, absent⟩ := splitAtLast_some last
      rw [consistent_of_parts (by simp [stripRealm, last]) (fun named => by simp [extractRealm, last, named])
        (.inl whole), whole]
      have final : (parts.1 ++ '@' :: parts.2).getLast? = some '@' ↔ parts.2 = [] := by
        cases behind : parts.2 with
        | nil => simp
        | cons first rest =>
          rw [behind] at absent
          grind
      have present : '@' ∈ parts.1 ++ '@' :: parts.2 := by simp
      simp only [ne_eq, final, present, true_or, and_true]
    | none =>
      have absent := splitAtLast_none last
      have final : username.toList.getLast? ≠ some '@' := fun is => absent (List.mem_of_getLast? is)
      simp only [ne_eq, final, not_false_eq_true, absent, false_or, true_and]
      cases first : splitAtFirst '\\' username.toList with
      | some parts =>
        obtain ⟨before, behind⟩ := parts
        obtain ⟨whole, other⟩ := splitAtFirst_some first
        rw [consistent_of_parts (by simp [stripRealm, last, first])
          (fun named => by simp [extractRealm, last, first, named]) (.inr whole), whole]
        cases before with
        | nil => simp
        | cons char rest => simpa [eq_comm] using List.ne_of_not_mem_cons other
      | none =>
        refine iff_of_true ?_ fun is => splitAtFirst_none first (List.mem_of_head? is)
        simp [Consistent, extractRealm, stripRealm, last, first]
  · intro consistent realms pool user routed
    simp only [routeRealm, Option.bind_eq_bind, Option.bind_eq_some_iff] at routed
    obtain ⟨realm, extracted, configured, found, same⟩ := routed
    refine ⟨configured, List.mem_of_find?_eq_some found, ?_⟩
    have matched := List.find?_some found
    simp only [Consistent, extracted] at consistent
    grind

theorem prefixed_consistent : Consistent "REALM\\user" ∧
    routeRealm [⟨.exact "REALM", (), true⟩] "REALM\\user" = some ((), some "user") ∧
    Joins "REALM\\user" "user" "REALM" := by
  obtain ⟨exactly, routed⟩ := @realm_consistent Unit "REALM\\user"
  have consistent := exactly.mpr (by decide +kernel)
  have route : routeRealm [⟨.exact "REALM", (), true⟩] "REALM\\user" = some ((), some "user") := by decide +kernel
  obtain ⟨configured, listed, _, realm, _, found, joins⟩ := routed consistent _ _ _ route
  cases List.mem_singleton.mp listed
  exact ⟨consistent, route, of_decide_eq_true found ▸ joins⟩

/-- The realm routed on is not the one that is stripped, and a name without a realm
is cut. -/
theorem trailingAt_inconsistent :
    routeRealm [⟨.exact "REALM", (), true⟩] "REALM\\user@" = some ((), some "REALM\\user") ∧
    ¬ Consistent "REALM\\user@" ∧ ¬ Consistent "user@" := by
  refine ⟨by decide +kernel, ?_, ?_⟩
  · have extracted : extractRealm "REALM\\user@" = some "REALM" := by decide +kernel
    simp only [Consistent, extracted, Joins]
    decide +kernel
  · have extracted : extractRealm "user@" = none := by decide +kernel
    simp only [Consistent, extracted]
    decide +kernel

end UsgRadius.Proxy
