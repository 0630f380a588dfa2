import UsgRadius.Data.Hex

namespace UsgRadius.Ldap

open Data

/-! Search filters of LDAP: their text (RFC 4515) and how an entry evaluates them
(RFC 4511, 4.5.1.7). -/

inductive Assertion where
  | equality (attr value : Octets)
  | substrings (attr initial : Octets) (any : List Octets) (final : Octets)
  | greaterOrEqual (attr value : Octets)
  | lessOrEqual (attr value : Octets)
  | present (attr : Octets)
  | approximate (attr value : Octets)
  | extensible (attr rule : Option Octets) (value : Octets) (dnAttributes : Bool)
deriving DecidableEq

/-- `and` and `or` of a list are those of its first filter and the rest. -/
inductive Filter where
  | item (assertion : Assertion)
  | not (filter : Filter)
  | and (first rest : Filter)
  | or (first rest : Filter)
deriving DecidableEq

namespace Filter

/-- An assertion may be neither true nor false of an entry. -/
def eval (holds : Assertion → Option Bool) : Filter → Option Bool
  | item assertion => holds assertion
  | not filter => (filter.eval holds).map Bool.not
  | and first rest =>
    match first.eval holds, rest.eval holds with
    | some false, _ => some false
    | _, some false => some false
    | some true, some true => some true
    | _, _ => none
  | or first rest =>
    match first.eval holds, rest.eval holds with
    | some true, _ => some true
    | _, some true => some true
    | some false, some false => some false
    | _, _ => none

def selects (holds : Assertion → Option Bool) (filter : Filter) : Bool :=
  filter.eval holds == some true

end Filter

def isLetter (octet : UInt8) : Bool :=
  (65 ≤ octet && octet ≤ 90) || (97 ≤ octet && octet ≤ 122)

def isDigit (octet : UInt8) : Bool :=
  48 ≤ octet && octet ≤ 57

/-- Letters, digits, `-`, `.` and `;`. -/
def isDescriptionOctet (octet : UInt8) : Bool :=
  isLetter octet || isDigit octet || octet == 45 || octet == 46 || octet == 59

/-- NUL, `(`, `)`, `*` and `\` stand in a value only as escapes. -/
def isNormal (octet : UInt8) : Bool :=
  octet != 0 && octet != 40 && octet != 41 && octet != 42 && octet != 92

def valueOf : Octets → Option Octets
  | [] => some []
  | 92 :: high :: low :: rest =>
    match Hex.digitValue high, Hex.digitValue low, valueOf rest with
    | some sixteens, some units, some value => some ((16 * sixteens + units) :: value)
    | _, _, _ => none
  | octet :: rest => if isNormal octet then (valueOf rest).map (octet :: ·) else none

def splitAsterisks : Octets → List Octets
  | [] => [[]]
  | octet :: rest =>
    match splitAsterisks rest with
    | [] => []
    | part :: parts => if octet = 42 then [] :: part :: parts else (octet :: part) :: parts

/-- What comes after the equals sign: a value, a lone asterisk, or values and
asterisks. -/
def equalityOf (attr text : Octets) : Option Assertion :=
  if text = [42] then some (.present attr)
  else do
    match ← (splitAsterisks text).mapM valueOf with
    | [] => none
    | [value] => return .equality attr value
    | initial :: rest => return .substrings attr initial rest.dropLast (rest.getLast?.getD [])

/-- `[":dn"] [":" rule] ":=" value`. -/
def extensibleOf (attr : Option Octets) (text : Octets) : Option Assertion :=
  let dnAttributes := (utf8 ":dn:").isPrefixOf text
  let text := if dnAttributes then text.drop 3 else text
  match text with
  | 58 :: 61 :: value => if attr.isSome then (valueOf value).map (.extensible attr none · dnAttributes) else none
  | 58 :: text =>
    let rule := text.takeWhile isDescriptionOctet
    match rule, text.drop rule.length with
    | [], _ => none
    | rule, 58 :: 61 :: value => (valueOf value).map (.extensible attr (some rule) · dnAttributes)
    | _, _ => none
  | _ => none

def itemOf (text : Octets) : Option Assertion :=
  let attr := text.takeWhile isDescriptionOctet
  match attr, text.drop attr.length with
  | [], text => extensibleOf none text
  | first :: more, text =>
    if isLetter first || isDigit first then
      match text with
      | 61 :: value => equalityOf (first :: more) value
      | 126 :: 61 :: value => (valueOf value).map (.approximate (first :: more))
      | 62 :: 61 :: value => (valueOf value).map (.greaterOrEqual (first :: more))
      | 60 :: 61 :: value => (valueOf value).map (.lessOrEqual (first :: more))
      | text => extensibleOf (some (first :: more)) text
    else none

/-- The octet `)` and what comes after it. -/
def closing (filter : Filter) : Octets → Option (Filter × Octets)
  | 41 :: rest => some (filter, rest)
  | _ => none

mutual

def filterOf : Nat → Octets → Option (Filter × Octets)
  | fuel + 1, 40 :: 38 :: rest => do
    let (filter, rest) ← listOf fuel .and rest
    closing filter rest
  | fuel + 1, 40 :: 124 :: rest => do
    let (filter, rest) ← listOf fuel .or rest
    closing filter rest
  | fuel + 1, 40 :: 33 :: rest => do
    let (filter, rest) ← filterOf fuel rest
    closing filter.not rest
  | _ + 1, 40 :: rest => do
    let text := rest.takeWhile fun octet => octet != 40 && octet != 41
    closing (.item (← itemOf text)) (rest.drop text.length)
  | _, _ => none

def listOf : Nat → (Filter → Filter → Filter) → Octets → Option (Filter × Octets)
  | 0, _, _ => none
  | fuel + 1, join, text => do
    let (first, rest) ← filterOf fuel text
    match rest with
    | 40 :: _ => do
      let (others, rest) ← listOf fuel join rest
      return (join first others, rest)
    | _ => return (first, rest)

end

def parse (text : Octets) : Option Filter :=
  match filterOf (2 * text.length + 1) text with
  | some (filter, []) => some filter
  | _ => none

example : parse (utf8 "(&(uid=a\\2ab)(!(cn=*))(sn=x*y*))") = some (.and (.item (.equality (utf8 "uid") (utf8 "a*b")))
    (.and (.not (.item (.present (utf8 "cn")))) (.item (.substrings (utf8 "sn") (utf8 "x") [utf8 "y"] [])))) := by
  decide +kernel

variable {text : Octets}

/-- Octets that need no escape stand for themselves. -/
theorem valueOf_normal (normal : ∀ octet ∈ text, isNormal octet = true) : valueOf text = some text := by
  induction text with
  | nil => rfl
  | cons octet rest ih =>
    obtain ⟨own, others⟩ := List.forall_mem_cons.mp normal
    unfold valueOf
    split
    next empty => cases empty
    next escape =>
      cases escape
      cases own
    next same =>
      cases same
      rw [if_pos own, ih others]
      rfl

theorem valueOf_nil (stands : valueOf text = some []) : text = [] := by
  unfold valueOf at stands
  split at stands
  · rfl
  · split at stands <;> cases stands
  · split at stands
    · simp at stands
    · cases stands

theorem digitValue_spelling {octet value : UInt8} (digit : Hex.digitValue octet = some value) :
    value.toNat < 16 ∧ (value = 2 → octet = 50) ∧ (value = 10 → octet = 97 ∨ octet = 65) := by
  have all : ∀ code : Fin 256, ∀ value ∈ Hex.digitValue (.ofNat code),
      value.toNat < 16 ∧ (value = 2 → UInt8.ofNat code = 50) ∧
        (value = 10 → UInt8.ofNat code = 97 ∨ UInt8.ofNat code = 65) := by decide +kernel
  simpa using all ⟨octet.toNat, octet.toNat_lt⟩ value (by simpa using digit)

theorem valueOf_asterisk (stands : valueOf text = some [42]) : text = utf8 "\\2a" ∨ text = utf8 "\\2A" := by
  unfold valueOf at stands
  split at stands
  · cases stands
  · rename_i high low rest
    split at stands
    · rename_i sixteens units value highIs lowIs restIs
      simp only [Option.some.injEq, List.cons.injEq] at stands
      obtain ⟨code, rfl⟩ := stands
      obtain ⟨highFits, highTwo, _⟩ := digitValue_spelling highIs
      obtain ⟨lowFits, _, lowTen⟩ := digitValue_spelling lowIs
      have parts : sixteens = 2 ∧ units = 10 := by
        simp only [← UInt8.toNat_inj, UInt8.toNat_add, UInt8.toNat_mul, UInt8.reduceToNat] at code ⊢
        omega
      rw [highTwo parts.1, valueOf_nil restIs]
      rcases lowTen parts.2 with rfl | rfl
      · exact .inl (by decide)
      · exact .inr (by decide)
    · cases stands
  · rename_i octet rest _
    split at stands
    · rename_i normal
      obtain ⟨_, _, same⟩ := Option.map_eq_some_iff.mp stands
      cases same
      cases normal
    · cases stands

end UsgRadius.Ldap
