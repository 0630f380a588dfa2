import UsgRadius.Revocation.Certificate
import UsgRadius.Data.Search
import Mathlib.Data.List.AList

namespace UsgRadius.Revocation

open Data Search

/-! Building the certification paths of a chain: a search over the end entity,
the configured certificates and those of the peer, with budgets. -/

def MAX_CHAIN_LEN : Nat := 8
def MAX_PATHS : Nat := 8
def MAX_PATH_NODES : Nat := 32
def MAX_SIGNATURE_CHECKS : Nat := 64

structure PathCert where
  der : Octets
  subject : Octets
  issuer : Octets
  spki : Octets
  isCa : Bool
  notBefore : Int
  notAfter : Int
  configured : Bool
  anchor : Bool
deriving DecidableEq

namespace PathCert

def parse (libraries : Libraries) (der : Octets) (configured : Bool) : Option PathCert :=
  match libraries.parseX509Certificate der with
  | .error _ => none
  | .ok cert => some {
      der
      subject := cert.subject
      issuer := cert.issuer
      spki := cert.spki
      isCa := cert.isCa
      notBefore := cert.notBefore
      notAfter := cert.notAfter
      configured
      anchor := configured && cert.subject == cert.issuer }

def usableIntermediateAt (cert : PathCert) (now : UnixTime) : Bool :=
  cert.isCa && cert.notBefore ≤ now.asSecs && now.asSecs ≤ cert.notAfter

end PathCert

/-- Adds a certificate that is not there yet, can be parsed and is admitted. -/
def addCert (libraries : Libraries) (configured : Bool) (acceptable : PathCert → Bool) (certs : List PathCert)
    (der : Octets) : List PathCert :=
  if certs.any fun cert => cert.der == der then certs
  else
    match PathCert.parse libraries der configured with
    | none => certs
    | some cert => if acceptable cert then certs ++ [cert] else certs

def arena (libraries : Libraries) (issuerCerts intermediates : List Octets) (now : UnixTime) (endEntity : PathCert) :
    List PathCert :=
  intermediates.foldl (addCert libraries false (·.usableIntermediateAt now))
    (issuerCerts.foldl (addCert libraries true fun _ => true) [endEntity])

def derAt (certs : List PathCert) (index : Fin certs.length) : Octets :=
  (certs.get index).der

structure LinkCache (count : Nat) where
  known : AList fun _ : Fin count × Fin count => Bool
  verifications : Nat

def LinkCache.new {count : Nat} : LinkCache count :=
  ⟨∅, 0⟩

abbrev Linking (count : Nat) := StateT (LinkCache count) (Except RevocationError)

section

variable (algorithms : WebPkiSupportedAlgorithms) (certs : List PathCert)

def issuedBy (child parent : Fin certs.length) : Linking certs.length Bool := fun links =>
  let c := certs.get child
  let p := certs.get parent
  if c.issuer ≠ p.subject then .ok (false, links)
  else
    match links.known.lookup (child, parent) with
    | some known => .ok (known, links)
    | none =>
      let verifications := links.verifications + 1
      if verifications > MAX_SIGNATURE_CHECKS then
        .error (.pathBudgetExceeded "more than 64 signature verifications")
      else
        let linked := signedWith algorithms p.spki c.der
        .ok (linked, ⟨links.known.insert (child, parent) linked, verifications⟩)

/-- The first anchor that issued `current`. -/
def findAnchor (current : Fin certs.length) : List (Fin certs.length) → Linking certs.length (Option (Fin certs.length))
  | [] => return none
  | index :: indices => do
    if (certs.get index).anchor then
      if ← issuedBy algorithms certs current index then
        return some index
    findAnchor current indices

/-- Whether a path may go on from `current` to `index`. The end entity is the
first of the certificates. -/
def extendsTo (path : List (Fin certs.length)) (current index : Fin certs.length) : Linking certs.length Bool :=
  if index.val ≠ 0 ∧ (certs.get index).anchor = false ∧ index ∉ path then issuedBy algorithms certs current index
  else return false

def findNext (path : List (Fin certs.length)) (current : Fin certs.length) :
    List (Fin certs.length) → Linking certs.length (List (Fin certs.length))
  | [] => return []
  | index :: indices => do
    let goes ← extendsTo algorithms certs path current index
    let next ← findNext path current indices
    return if goes then index :: next else next

/-- The certificates a trail goes on to, if it is not too long. -/
def extensions (trail : Trail (Fin certs.length)) : Linking certs.length (List (Fin certs.length)) :=
  if trail.path.length < MAX_CHAIN_LEN then
    findNext algorithms certs trail.path trail.current (List.finRange certs.length)
  else return []

/-- `path` up to the last configured certificate on it, unless that is its first. -/
def furthestConfigured (path : List (Fin certs.length)) : Option (List (Fin certs.length)) :=
  match path.reverse.dropWhile fun index => !(certs.get index).configured with
  | last :: front@(_ :: _) => some (last :: front).reverse
  | _ => none

def expand (trail : Trail (Fin certs.length)) :
    Linking certs.length (Look (Trail (Fin certs.length)) (List (Fin certs.length))) := do
  match ← findAnchor algorithms certs trail.current (List.finRange certs.length) with
  | some anchor => return .done (some (trail.path ++ [anchor]))
  | none => do
    let next ← extensions algorithms certs trail
    if next.isEmpty then
      return .done (furthestConfigured certs trail.path)
    else
      return .more (next.map trail.extend)

/-- The paths from the certificate at `start`. -/
def explorePaths (start : Fin certs.length) : Fallible (List (List (Fin certs.length))) :=
  explore (fun links trail => expand algorithms certs trail links)
    (.pathBudgetExceeded "more than 32 path extensions") (.pathBudgetExceeded "more than 8 certification paths")
    MAX_PATHS MAX_PATH_NODES .new [⟨[], start⟩] []

end

variable {libraries : Libraries}

theorem addCert_length_pos {configured : Bool} {acceptable : PathCert → Bool} {certs : List PathCert} {der : Octets}
    (present : 0 < certs.length) : 0 < (addCert libraries configured acceptable certs der).length := by
  unfold addCert
  split
  · exact present
  · split
    · exact present
    · split
      · simp
      · exact present

theorem arena_length_pos {issuerCerts intermediates : List Octets} {now : UnixTime} {endEntity : PathCert} :
    0 < (arena libraries issuerCerts intermediates now endEntity).length := by
  have grows {configured : Bool} {acceptable : PathCert → Bool} (ders : List Octets) {certs : List PathCert}
      (present : 0 < certs.length) : 0 < (ders.foldl (addCert libraries configured acceptable) certs).length := by
    induction ders generalizing certs with
    | nil => exact present
    | cons der ders ih => exact ih (addCert_length_pos present)
  exact grows _ (grows _ (by simp))

def buildPaths (libraries : Libraries) (algorithms : WebPkiSupportedAlgorithms) (issuerCerts : List Octets)
    (endEntity : Octets) (intermediates : List Octets) (now : UnixTime) : Fallible (List (List Octets)) := do
  match PathCert.parse libraries endEntity false with
  | none => throw (.certificateError "Failed to parse certificate")
  | some ee =>
    let certs := arena libraries issuerCerts intermediates now ee
    let paths ← explorePaths algorithms certs ⟨0, arena_length_pos⟩
    if paths.isEmpty then
      throw (.certificateError ("cannot link the certificate to a configured issuer certificate, so its " ++
        "revocation status cannot be verified"))
    return paths.map (List.map (derAt certs))

end UsgRadius.Revocation
