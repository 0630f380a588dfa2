import UsgRadius.Revocation.Paths
import UsgRadius.Data.Maps
import Mathlib.Data.List.TakeWhile

namespace UsgRadius.Revocation

open Data Search Graph

/-! What path building finds: all the maximal chains from the end entity, closed
by an anchor or cut at the last certificate that is configured. -/

section Links

variable {algorithms : WebPkiSupportedAlgorithms} {certs : List PathCert}

def linked (algorithms : WebPkiSupportedAlgorithms) (certs : List PathCert) (child parent : Fin certs.length) : Bool :=
  (certs.get child).issuer == (certs.get parent).subject &&
    signedWith algorithms (certs.get parent).spki (certs.get child).der

def Truthful (algorithms : WebPkiSupportedAlgorithms) (certs : List PathCert) (links : LinkCache certs.length) : Prop :=
  ∀ child parent known, links.known.lookup (child, parent) = some known →
    known = signedWith algorithms (certs.get parent).spki (certs.get child).der

/-- If the computation comes to an end, it is with `value`. -/
def Answers (algorithms : WebPkiSupportedAlgorithms) {Value : Type} (computation : Linking certs.length Value)
    (value : Value) : Prop :=
  ∀ links answer after, Truthful algorithms certs links → computation links = .ok (answer, after) →
    answer = value ∧ Truthful algorithms certs after

theorem truthful_new : Truthful algorithms certs .new := by
  intro child parent known found
  cases found

namespace Answers

variable {Value Next : Type}

theorem pure (value : Value) : Answers algorithms (Pure.pure value : Linking certs.length Value) value := by
  intro links answer after truthful ended
  cases ended
  exact ⟨rfl, truthful⟩

theorem bind {computation : Linking certs.length Value} {value : Value} {next : Value → Linking certs.length Next}
    {result : Next} (first : Answers algorithms computation value) (second : Answers algorithms (next value) result) :
    Answers algorithms (computation >>= next) result := by
  intro links answer after truthful ended
  cases ran : computation links with
  | error reason => simp [Bind.bind, StateT.bind, Except.bind, ran] at ended
  | ok reached =>
    obtain ⟨rfl, truthful⟩ := first links reached.1 reached.2 truthful ran
    simp only [Bind.bind, StateT.bind, Except.bind, ran] at ended
    exact second _ _ _ truthful ended

end Answers

theorem issuedBy_answers (child parent : Fin certs.length) :
    Answers algorithms (issuedBy algorithms certs child parent) (linked algorithms certs child parent) := by
  intro links answer after truthful ended
  simp only [issuedBy] at ended
  split at ended
  · rename_i other
    cases ended
    exact ⟨by rw [linked, beq_false_of_ne other, Bool.false_and], truthful⟩
  · rename_i named
    have same : linked algorithms certs child parent =
        signedWith algorithms (certs.get parent).spki (certs.get child).der := by
      simpa [linked] using fun _ => not_not.mp named
    split at ended
    · rename_i found
      cases ended
      exact ⟨same ▸ truthful child parent _ found, truthful⟩
    · split at ended
      · cases ended
      · cases ended
        exact ⟨same.symm, by grind [Truthful]⟩

def firstAnchor (algorithms : WebPkiSupportedAlgorithms) (certs : List PathCert) (current : Fin certs.length) :
    Option (Fin certs.length) :=
  (List.finRange certs.length).find? fun index => (certs.get index).anchor && linked algorithms certs current index

theorem findAnchor_answers (current : Fin certs.length) (indices : List (Fin certs.length)) :
    Answers algorithms (findAnchor algorithms certs current indices)
      (indices.find? fun index => (certs.get index).anchor && linked algorithms certs current index) := by
  induction indices with
  | nil => exact Answers.pure _
  | cons index indices ih =>
    simp only [findAnchor, List.find?_cons]
    cases anchor : (certs.get index).anchor with
    | false => simpa using ih
    | true =>
      apply Answers.bind (issuedBy_answers current index)
      cases linked algorithms certs current index with
      | false => simpa using ih
      | true => exact Answers.pure _

def ways (algorithms : WebPkiSupportedAlgorithms) (certs : List PathCert) (path : List (Fin certs.length))
    (current index : Fin certs.length) : Bool :=
  index.val != 0 && !(certs.get index).anchor && !path.contains index && linked algorithms certs current index

theorem ways_iff {path : List (Fin certs.length)} {current index : Fin certs.length} :
    ways algorithms certs path current index = true ↔
      (index.val ≠ 0 ∧ (certs.get index).anchor = false ∧ index ∉ path) ∧ linked algorithms certs current index = true := by
  simp [ways, and_assoc]

theorem extendsTo_answers (path : List (Fin certs.length)) (current index : Fin certs.length) :
    Answers algorithms (extendsTo algorithms certs path current index) (ways algorithms certs path current index) := by
  unfold extendsTo
  split
  · rename_i may
    have same : ways algorithms certs path current index = linked algorithms certs current index :=
      Bool.eq_iff_iff.mpr (ways_iff.trans (and_iff_right may))
    rw [same]
    exact issuedBy_answers current index
  · rename_i mayNot
    rw [Bool.eq_false_iff.mpr fun goes => mayNot (ways_iff.mp goes).1]
    exact Answers.pure _

theorem findNext_answers (path : List (Fin certs.length)) (current : Fin certs.length)
    (indices : List (Fin certs.length)) :
    Answers algorithms (findNext algorithms certs path current indices)
      (indices.filter (ways algorithms certs path current)) := by
  induction indices with
  | nil => exact Answers.pure _
  | cons index indices ih =>
    rw [List.filter_cons]
    exact (extendsTo_answers path current index).bind (ih.bind (Answers.pure _))

def waysOn (algorithms : WebPkiSupportedAlgorithms) (certs : List PathCert) (trail : Trail (Fin certs.length)) :
    List (Fin certs.length) :=
  if trail.path.length < MAX_CHAIN_LEN then
    (List.finRange certs.length).filter (ways algorithms certs trail.path trail.current)
  else []

theorem extensions_answers (trail : Trail (Fin certs.length)) :
    Answers algorithms (extensions algorithms certs trail) (waysOn algorithms certs trail) := by
  unfold extensions waysOn
  split
  · exact findNext_answers _ _ _
  · exact Answers.pure _

def look (algorithms : WebPkiSupportedAlgorithms) (certs : List PathCert) (trail : Trail (Fin certs.length)) :
    Look (Trail (Fin certs.length)) (List (Fin certs.length)) :=
  match firstAnchor algorithms certs trail.current with
  | some anchor => .done (some (trail.path ++ [anchor]))
  | none =>
    if (waysOn algorithms certs trail).isEmpty then .done (furthestConfigured certs trail.path)
    else .more ((waysOn algorithms certs trail).map trail.extend)

theorem expand_answers (trail : Trail (Fin certs.length)) :
    Answers algorithms (expand algorithms certs trail) (look algorithms certs trail) := by
  apply (findAnchor_answers trail.current _).bind
  rw [look, ← firstAnchor]
  cases firstAnchor algorithms certs trail.current with
  | some anchor => exact Answers.pure _
  | none =>
    apply (extensions_answers trail).bind
    split
    · exact Answers.pure _
    · exact Answers.pure _

end Links

/-- What becomes of a maximal chain. -/
def outcome (algorithms : WebPkiSupportedAlgorithms) (certs : List PathCert) (path : List (Fin certs.length)) :
    Option (List (Fin certs.length)) :=
  match path.getLast?.bind (firstAnchor algorithms certs) with
  | some anchor => some (path ++ [anchor])
  | none => furthestConfigured certs path

section Certificates

variable {libraries : Libraries} {certs : List PathCert} {cert : PathCert} {der : Octets} {configured : Bool}
  {acceptable : PathCert → Bool}

theorem PathCert.parse_der (parsed : PathCert.parse libraries der configured = some cert) :
    cert.der = der ∧ cert.configured = configured := by
  unfold PathCert.parse at parsed
  split at parsed
  · cases parsed
  · cases parsed
    exact ⟨rfl, rfl⟩

theorem addCert_cases (libraries : Libraries) (configured : Bool) (acceptable : PathCert → Bool) (certs : List PathCert)
    (der : Octets) :
    (addCert libraries configured acceptable certs der = certs ∧
      ¬ ∃ cert, der ∉ certs.map PathCert.der ∧ PathCert.parse libraries der configured = some cert ∧ acceptable cert = true) ∨
    ∃ cert, addCert libraries configured acceptable certs der = certs ++ [cert] ∧ der ∉ certs.map PathCert.der ∧
      PathCert.parse libraries der configured = some cert ∧ acceptable cert = true := by
  have known : (certs.any fun cert => cert.der == der) = true ↔ der ∈ certs.map PathCert.der := by simp
  unfold addCert
  split
  · rename_i found
    exact .inl ⟨rfl, fun ⟨_, missing, _⟩ => missing (known.mp found)⟩
  · grind

theorem prefix_addCert (certs : List PathCert) (der : Octets) :
    certs <+: addCert libraries configured acceptable certs der := by
  rcases addCert_cases libraries configured acceptable certs der with ⟨same, _⟩ | ⟨own, grown, _⟩
  · exact ⟨[], by rw [same, List.append_nil]⟩
  · exact ⟨[own], grown.symm⟩

theorem nodup_addCert (distinct : (certs.map PathCert.der).Nodup) (der : Octets) :
    ((addCert libraries configured acceptable certs der).map PathCert.der).Nodup := by
  rcases addCert_cases libraries configured acceptable certs der with
    ⟨same, _⟩ | ⟨own, grown, missing, parsed, _⟩
  · rwa [same]
  · rw [grown, List.map_append, List.map_singleton, (PathCert.parse_der parsed).1]
    apply List.nodup_append'.mpr ⟨distinct, List.nodup_singleton _, ?_⟩
    intro other member same
    exact missing (List.mem_singleton.mp same ▸ member)

theorem mem_foldl_addCert (ders : List Octets) : cert ∈ ders.foldl (addCert libraries configured acceptable) certs ↔
    cert ∈ certs ∨ cert.der ∈ ders ∧ cert.der ∉ certs.map PathCert.der ∧
      PathCert.parse libraries cert.der configured = some cert ∧ acceptable cert = true := by
  induction ders generalizing certs with
  | nil => simp
  | cons der ders ih =>
    rw [List.foldl_cons, ih]
    rcases addCert_cases libraries configured acceptable certs der with
      ⟨same, none⟩ | ⟨own, grown, missing, parsed, admitted⟩
    · grind
    · have own_der := (PathCert.parse_der parsed).1
      rw [grown, List.mem_append, List.mem_singleton, List.map_append, List.map_singleton, own_der, List.mem_append,
        List.mem_singleton, List.mem_cons]
      by_cases same : cert.der = der
      · grind
      · grind

theorem prefix_foldl_addCert (ders : List Octets) : certs <+: ders.foldl (addCert libraries configured acceptable) certs := by
  induction ders generalizing certs with
  | nil => exact List.prefix_rfl
  | cons der ders ih => exact (prefix_addCert certs der).trans ih

theorem nodup_foldl_addCert (distinct : (certs.map PathCert.der).Nodup) (ders : List Octets) :
    ((ders.foldl (addCert libraries configured acceptable) certs).map PathCert.der).Nodup := by
  induction ders generalizing certs with
  | nil => exact distinct
  | cons der ders ih => exact ih (nodup_addCert distinct der)

end Certificates

def Configured (libraries : Libraries) (issuerCerts : List Octets) (der : Octets) : Prop :=
  der ∈ issuerCerts ∧ ∃ cert, libraries.parseX509Certificate der = .ok cert

/-- A configured certificate that is self-issued. The end entity itself is no
anchor, whatever is configured. -/
def Anchor (libraries : Libraries) (issuerCerts : List Octets) (endEntity der : Octets) : Prop :=
  der ∈ issuerCerts ∧ der ≠ endEntity ∧
    ∃ cert, libraries.parseX509Certificate der = .ok cert ∧ cert.subject = cert.issuer

/-- A certificate of a CA that is in its validity period. -/
def Usable (libraries : Libraries) (now : UnixTime) (der : Octets) : Prop :=
  ∃ cert, libraries.parseX509Certificate der = .ok cert ∧ cert.isCa = true ∧ cert.isValidAt now.asSecs = true

/-- Chains of at most eight certificates from the end entity on, which are over
where an anchor is the issuer. -/
def certificateChains (libraries : Libraries) (algorithms : WebPkiSupportedAlgorithms)
    (issuerCerts : List Octets) (endEntity : Octets) (intermediates : List Octets) (now : UnixTime) : Graph Octets where
  start := endEntity
  step child parent := isIssuedBy libraries algorithms child parent = true
  inner der := (Configured libraries issuerCerts der ∧ ¬ Anchor libraries issuerCerts endEntity der) ∨
    (der ∈ intermediates ∧ Usable libraries now der)
  closed der := ∃ anchor, Anchor libraries issuerCerts endEntity anchor ∧
    isIssuedBy libraries algorithms der anchor = true
  limit := 8

/-- `path` is `chain` up to the last configured certificate after the first. -/
def UpToConfigured (libraries : Libraries) (issuerCerts chain path : List Octets) : Prop :=
  ∃ front last rest, chain = front ++ last :: rest ∧ front ≠ [] ∧ Configured libraries issuerCerts last ∧
    (∀ other ∈ rest, ¬ Configured libraries issuerCerts other) ∧ path = front ++ [last]

variable {certs : List PathCert}

section Chains

variable {libraries : Libraries} {algorithms : WebPkiSupportedAlgorithms} {issuerCerts intermediates : List Octets}
  {endEntity der : Octets} {now : UnixTime} {ee cert : PathCert}

theorem PathCert.parse_eq_some {configured : Bool} (parsed : PathCert.parse libraries der configured = some cert) :
    ∃ x509, libraries.parseX509Certificate der = .ok x509 ∧ cert.der = der ∧ cert.subject = x509.subject ∧
      cert.issuer = x509.issuer ∧ cert.spki = x509.spki ∧ cert.configured = configured ∧
      cert.anchor = (configured && x509.subject == x509.issuer) ∧
      ∀ now, cert.usableIntermediateAt now = (x509.isCa && x509.isValidAt now.asSecs) := by
  unfold PathCert.parse at parsed
  split at parsed
  · cases parsed
  · rename_i x509 read
    cases parsed
    refine ⟨x509, read, rfl, rfl, rfl, rfl, rfl, rfl, fun now => ?_⟩
    simp only [usableIntermediateAt, X509Certificate.isValidAt, Bool.and_assoc]

theorem PathCert.exists_parse (configured : Bool) {x509 : X509Certificate}
    (read : libraries.parseX509Certificate der = .ok x509) :
    ∃ cert, PathCert.parse libraries der configured = some cert := by
  simp [PathCert.parse, read]

theorem mem_arena : cert ∈ arena libraries issuerCerts intermediates now ee ↔
    cert = ee ∨ (cert.der ∈ issuerCerts ∧ cert.der ≠ ee.der ∧ PathCert.parse libraries cert.der true = some cert) ∨
    cert.der ∈ intermediates ∧ cert.der ∉ (issuerCerts.foldl (addCert libraries true fun _ => true) [ee]).map PathCert.der ∧
      PathCert.parse libraries cert.der false = some cert ∧ cert.usableIntermediateAt now = true := by
  rw [arena, mem_foldl_addCert, mem_foldl_addCert, ← or_assoc]
  simp

def IsArena (libraries : Libraries) (issuerCerts : List Octets) (endEntity : Octets) (intermediates : List Octets)
    (now : UnixTime) (certs : List PathCert) : Prop :=
  ∃ ee, PathCert.parse libraries endEntity false = some ee ∧ certs = arena libraries issuerCerts intermediates now ee

namespace IsArena

/-- The chains of the certificates. -/
abbrev chains {certs : List PathCert} (_ : IsArena libraries issuerCerts endEntity intermediates now certs)
    (algorithms : WebPkiSupportedAlgorithms) : Graph Octets :=
  certificateChains libraries algorithms issuerCerts endEntity intermediates now

variable {certs : List PathCert} (made : IsArena libraries issuerCerts endEntity intermediates now certs)
include made

theorem parse_mem (member : cert ∈ certs) : PathCert.parse libraries cert.der cert.configured = some cert := by
  have own {configured : Bool} (found : PathCert.parse libraries cert.der configured = some cert) :
      PathCert.parse libraries cert.der cert.configured = some cert := by
    rwa [(PathCert.parse_der found).2]
  obtain ⟨ee, parsed, rfl⟩ := made
  rcases mem_arena.mp member with rfl | ⟨_, _, found⟩ | ⟨_, _, found, _⟩
  · obtain ⟨own, plain⟩ := PathCert.parse_der parsed
    rwa [own, plain]
  · exact own found
  · exact own found

theorem nodup : (certs.map PathCert.der).Nodup := by
  obtain ⟨ee, _, rfl⟩ := made
  have alone : ([ee].map PathCert.der).Nodup := List.nodup_singleton _
  exact nodup_foldl_addCert (nodup_foldl_addCert alone _) _

theorem injective : Function.Injective (derAt certs) := by
  intro left right same
  apply List.nodup_iff_injective_get.mp (made.nodup.of_map PathCert.der)
  exact List.inj_on_of_nodup_map made.nodup (List.get_mem _ _) (List.get_mem _ _) same

theorem der_eq_endEntity (index : Fin certs.length) : derAt certs index = endEntity ↔ index.val = 0 := by
  have present : 0 < certs.length := Nat.zero_lt_of_lt index.isLt
  have start : derAt certs ⟨0, present⟩ = endEntity := by
    obtain ⟨ee, parsed, rfl⟩ := made
    obtain ⟨rest, whole⟩ : [ee] <+: arena libraries issuerCerts intermediates now ee :=
      (prefix_foldl_addCert _).trans (prefix_foldl_addCert _)
    simp only [derAt, ← whole, List.get_eq_getElem, List.singleton_append, List.getElem_cons_zero]
    exact (PathCert.parse_der parsed).1
  rw [← start, made.injective.eq_iff, Fin.ext_iff]

theorem exists_configured (listed : Configured libraries issuerCerts der) (other : der ≠ endEntity) :
    ∃ index, derAt certs index = der ∧ (certs.get index).configured = true := by
  obtain ⟨ee, parsed, rfl⟩ := made
  obtain ⟨named, x509, read⟩ := listed
  obtain ⟨cert, found⟩ := PathCert.exists_parse true read
  obtain ⟨rfl, configured⟩ := PathCert.parse_der found
  have member : cert ∈ arena libraries issuerCerts intermediates now ee :=
    mem_arena.mpr (.inr (.inl ⟨named, (PathCert.parse_der parsed).1 ▸ other, found⟩))
  obtain ⟨index, same⟩ := List.mem_iff_get.mp member
  exact ⟨index, congrArg PathCert.der same, same ▸ configured⟩

theorem configured_iff (index : Fin certs.length) : (certs.get index).configured = true ↔
    Configured libraries issuerCerts (derAt certs index) ∧ derAt certs index ≠ endEntity := by
  refine ⟨?_, ?_⟩
  · intro configured
    obtain ⟨ee, parsed, rfl⟩ := made
    obtain ⟨eeDer, eePlain⟩ := PathCert.parse_der parsed
    rcases mem_arena.mp (List.get_mem _ index) with first | ⟨named, other, found⟩ | ⟨_, _, found, _⟩
    · rw [first, eePlain] at configured
      cases configured
    · obtain ⟨x509, read, _⟩ := PathCert.parse_eq_some found
      exact ⟨⟨named, x509, read⟩, eeDer ▸ other⟩
    · rw [(PathCert.parse_der found).2] at configured
      cases configured
  · intro ⟨listed, other⟩
    obtain ⟨same, sameDer, configured⟩ := made.exists_configured listed other
    rwa [← made.injective sameDer]

theorem anchor_iff (index : Fin certs.length) :
    (certs.get index).anchor = true ↔ Anchor libraries issuerCerts endEntity (derAt certs index) := by
  obtain ⟨x509, read, _, _, _, _, _, flag, _⟩ := PathCert.parse_eq_some (made.parse_mem (List.get_mem _ index))
  rw [flag, Bool.and_eq_true, made.configured_iff, beq_iff_eq]
  refine ⟨?_, ?_⟩
  · intro ⟨⟨⟨named, _⟩, other⟩, selfIssued⟩
    exact ⟨named, other, x509, read, selfIssued⟩
  · intro ⟨named, other, again, reread, selfIssued⟩
    cases read.symm.trans reread
    exact ⟨⟨⟨named, x509, read⟩, other⟩, selfIssued⟩

theorem exists_anchor (anchor : Anchor libraries issuerCerts endEntity der) :
    ∃ index, derAt certs index = der ∧ (certs.get index).anchor = true := by
  obtain ⟨named, other, x509, read, selfIssued⟩ := anchor
  obtain ⟨index, rfl, _⟩ := made.exists_configured ⟨named, x509, read⟩ other
  exact ⟨index, rfl, (made.anchor_iff index).mpr ⟨named, other, x509, read, selfIssued⟩⟩

theorem exists_usable (presented : der ∈ intermediates) (usable : Usable libraries now der) (other : der ≠ endEntity)
    (unlisted : ¬ Configured libraries issuerCerts der) : ∃ index, derAt certs index = der := by
  obtain ⟨ee, parsed, rfl⟩ := made
  obtain ⟨x509, read, ca, valid⟩ := usable
  obtain ⟨cert, found⟩ := PathCert.exists_parse false read
  obtain ⟨again, reread, rfl, _, _, _, _, _, usableIs⟩ := PathCert.parse_eq_some found
  cases read.symm.trans reread
  have missing : cert.der ∉ (issuerCerts.foldl (addCert libraries true fun _ => true) [ee]).map PathCert.der := by
    intro known
    obtain ⟨stored, member, same⟩ := List.mem_map.mp known
    rcases (mem_foldl_addCert _).mp member with first | ⟨named, _, storedIs, _⟩
    · rw [List.mem_singleton.mp first] at same
      exact other (same ▸ (PathCert.parse_der parsed).1)
    · obtain ⟨x509, read, _⟩ := PathCert.parse_eq_some storedIs
      exact unlisted (same ▸ ⟨named, x509, read⟩)
  obtain ⟨index, rfl⟩ := List.mem_iff_get.mp
    (mem_arena.mpr (.inr (.inr ⟨presented, missing, found, by rw [usableIs, ca, valid]; rfl⟩)))
  exact ⟨index, rfl⟩

theorem listed_or_usable {index : Fin certs.length} (later : index.val ≠ 0) :
    Configured libraries issuerCerts (derAt certs index) ∨
      (derAt certs index ∈ intermediates ∧ Usable libraries now (derAt certs index)) := by
  have notFirst := mt (made.der_eq_endEntity index).mp later
  obtain ⟨ee, parsed, rfl⟩ := made
  rcases mem_arena.mp (List.get_mem _ index) with first | ⟨named, _, found⟩ | ⟨presented, _, found, usable⟩
  · refine absurd ?_ notFirst
    rw [derAt, first]
    exact (PathCert.parse_der parsed).1
  · obtain ⟨x509, read, _⟩ := PathCert.parse_eq_some found
    exact .inl ⟨named, x509, read⟩
  · obtain ⟨x509, read, _, _, _, _, _, _, usableIs⟩ := PathCert.parse_eq_some found
    rw [usableIs, Bool.and_eq_true] at usable
    exact .inr ⟨presented, x509, read, usable⟩

theorem linked_eq (child parent : Fin certs.length) :
    linked algorithms certs child parent = isIssuedBy libraries algorithms (derAt certs child) (derAt certs parent) := by
  obtain ⟨childX509, childRead, _, _, issuer, _⟩ := PathCert.parse_eq_some (made.parse_mem (List.get_mem _ child))
  obtain ⟨parentX509, parentRead, _, subject, _, spki, _⟩ :=
    PathCert.parse_eq_some (made.parse_mem (List.get_mem _ parent))
  simp only [linked, isIssuedBy, derAt, childRead, parentRead, issuer, subject, spki]

theorem firstAnchor_isSome (index : Fin certs.length) : (firstAnchor algorithms certs index).isSome = true ↔
    (made.chains algorithms).closed (derAt certs index) := by
  simp only [firstAnchor, List.find?_isSome, List.mem_finRange, true_and, Bool.and_eq_true, made.linked_eq, made.anchor_iff]
  refine ⟨fun ⟨anchor, isAnchor, issued⟩ => ⟨_, isAnchor, issued⟩, ?_⟩
  intro ⟨der, isAnchor, issued⟩
  obtain ⟨anchor, rfl, _⟩ := made.exists_anchor isAnchor
  exact ⟨anchor, isAnchor, issued⟩

theorem goes_iff {trail : Trail (Fin certs.length)} {next : Octets}
    (walk : (made.chains algorithms).Walk (trail.path.map (derAt certs)))
    (beyond : ¬ (made.chains algorithms).closed (derAt certs trail.current)) :
    (made.chains algorithms).Goes (trail.path.map (derAt certs)) (derAt certs trail.current) next ↔
      ∃ index ∈ waysOn algorithms certs trail, derAt certs index = next := by
  have mapped (index : Fin certs.length) : derAt certs index ∈ trail.path.map (derAt certs) ↔ index ∈ trail.path :=
    List.mem_map_of_injective made.injective
  refine ⟨?_, ?_⟩
  · intro ⟨_, room, within, step, fresh⟩
    -- a certificate of the peer that is an anchor would have ended the chain
    have plain : ¬ Anchor libraries issuerCerts endEntity next := fun anchor => beyond ⟨next, anchor, step⟩
    have notStart : next ≠ endEntity := fun same => fresh (same ▸ walk.start_mem)
    have found : ∃ index, derAt certs index = next := by
      by_cases listed : Configured libraries issuerCerts next
      · obtain ⟨index, same, _⟩ := made.exists_configured listed notStart
        exact ⟨index, same⟩
      · obtain ⟨presented, usable⟩ := within.resolve_left fun either => listed either.1
        exact made.exists_usable presented usable notStart listed
    obtain ⟨index, rfl⟩ := found
    have short : trail.path.length < MAX_CHAIN_LEN := by rwa [List.length_map] at room
    refine ⟨index, ?_, rfl⟩
    rw [waysOn, if_pos short, List.mem_filter, ways_iff, ← Bool.not_eq_true, made.anchor_iff, made.linked_eq,
      ne_eq, ← made.der_eq_endEntity, ← mapped]
    exact ⟨List.mem_finRange _, ⟨notStart, plain, fresh⟩, step⟩
  · intro ⟨index, member, same⟩
    subst same
    unfold waysOn at member
    split at member
    · rename_i room
      rw [List.mem_filter, ways_iff, ← Bool.not_eq_true, made.anchor_iff, made.linked_eq, ← mapped] at member
      obtain ⟨_, ⟨later, plain, fresh⟩, step⟩ := member
      have short : (trail.path.map (derAt certs)).length < MAX_CHAIN_LEN := by rwa [List.length_map]
      exact ⟨beyond, short, (made.listed_or_usable later).imp_left fun listed => ⟨listed, plain⟩, step, fresh⟩
    · cases member

theorem looks : (made.chains algorithms).Looks (derAt certs) (look algorithms certs) (outcome algorithms certs) where
  injective := made.injective
  stops := by
    intro trail maximal
    obtain ⟨walk, stays⟩ := maximal_trail.mp maximal
    have last : trail.path.getLast? = some trail.current := by simp [Trail.path]
    rw [look, outcome, last, Option.bind_some]
    cases found : firstAnchor algorithms certs trail.current with
    | some anchor => rfl
    | none =>
      have nothing : waysOn algorithms certs trail = [] := by
        apply List.eq_nil_iff_forall_not_mem.mpr
        intro next member
        refine stays _ ((made.goes_iff walk ?_).mpr ⟨next, member, rfl⟩)
        rw [← made.firstAnchor_isSome, found]
        exact Bool.false_ne_true
      simp only [nothing, List.isEmpty_nil, if_true]
  goes := by
    intro trail walk goesOn
    obtain ⟨next, goes⟩ : ∃ next, (made.chains algorithms).Goes (trail.path.map (derAt certs))
        (derAt certs trail.current) next := by
      by_contra stays
      exact goesOn (maximal_trail.mpr ⟨walk, not_exists.mp stays⟩)
    have missing : firstAnchor algorithms certs trail.current = none := by
      rw [← Option.not_isSome_iff_eq_none, made.firstAnchor_isSome]
      exact goes.beyond
    obtain ⟨index, member, _⟩ := (made.goes_iff walk goes.beyond).mp goes
    refine ⟨waysOn algorithms certs trail, ?_, fun next => made.goes_iff walk goes.beyond⟩
    simp only [look, missing]
    rw [if_neg]
    intro empty
    rw [List.isEmpty_iff.mp empty] at member
    cases member

theorem mem_explorePaths {start : Fin certs.length} {paths : List (List (Fin certs.length))} (first : start.val = 0)
    (explored : explorePaths algorithms certs start = .ok paths) (path : List (Fin certs.length)) :
    path ∈ paths ↔
      ∃ chain, (made.chains algorithms).Maximal (chain.map (derAt certs)) ∧ outcome algorithms certs chain = some path := by
  rw [mem_explore (fun links trail shown after => expand_answers trail links shown after) truthful_new explored]
  simp only [List.not_mem_nil, false_or, List.mem_singleton, exists_eq_left]
  exact yields_start made.looks ((made.der_eq_endEntity start).mpr first) (Nat.succ_pos 7)

end IsArena

theorem furthestConfigured_eq_some {path cut : List (Fin certs.length)} :
    furthestConfigured certs path = some cut ↔ ∃ front last rest, path = front ++ last :: rest ∧ front ≠ [] ∧
      (certs.get last).configured = true ∧ (∀ other ∈ rest, (certs.get other).configured = false) ∧
      cut = front ++ [last] := by
  unfold furthestConfigured
  refine ⟨?_, ?_⟩
  · intro found
    have split := List.takeWhile_append_dropWhile (p := fun index => !(certs.get index).configured) (l := path.reverse)
    have stop := List.head?_dropWhile_not (fun index => !(certs.get index).configured) path.reverse
    cases dropped : path.reverse.dropWhile fun index => !(certs.get index).configured with
    | nil =>
      rw [dropped] at found
      cases found
    | cons last before =>
      rw [dropped] at found split stop
      cases before with
      | nil => cases found
      | cons first others =>
        cases found
        have whole := congrArg List.reverse split
        rw [List.reverse_reverse] at whole
        refine ⟨(first :: others).reverse, last,
          (path.reverse.takeWhile fun index => !(certs.get index).configured).reverse, ?_, by simp, ?_, ?_, by simp⟩
        · simpa using whole.symm
        · simpa using stop
        · intro other member
          simpa using List.mem_takeWhile_imp (List.mem_reverse.mp member)
  · intro ⟨front, last, rest, whole, present, configured, plain, cutIs⟩
    subst whole cutIs
    have passed : ∀ other ∈ rest.reverse, (!(certs.get other).configured) = true := by
      intro other member
      rw [plain other (List.mem_reverse.mp member)]
      rfl
    rw [List.reverse_append, List.reverse_cons, List.append_assoc, List.dropWhile_append_of_pos passed,
      List.singleton_append, List.dropWhile_cons_of_neg (by rw [configured]; decide)]
    cases before : front.reverse with
    | nil => exact absurd (List.reverse_eq_nil_iff.mp before) present
    | cons first others => simp [← before]

/-- The anchor that closes a chain whose last certificate is `der`: the first that issued it. -/
def closingAnchor (libraries : Libraries) (algorithms : WebPkiSupportedAlgorithms) (certs : List PathCert)
    (der : Octets) : Octets :=
  match certs.find? fun cert => cert.anchor && isIssuedBy libraries algorithms der cert.der with
  | some cert => cert.der
  | none => der

theorem find?_get (certs : List PathCert) (wanted : PathCert → Bool) :
    ((List.finRange certs.length).find? fun index => wanted (certs.get index)).map certs.get = certs.find? wanted := by
  have mapped : ((List.finRange certs.length).map certs.get).find? wanted =
      ((List.finRange certs.length).find? (wanted ∘ certs.get)).map certs.get := List.find?_map
  rw [List.map_get_finRange] at mapped
  exact mapped.symm

namespace IsArena

variable {certs : List PathCert} (made : IsArena libraries issuerCerts endEntity intermediates now certs)
include made

theorem closingAnchor_eq {index anchor : Fin certs.length} (found : firstAnchor algorithms certs index = some anchor) :
    closingAnchor libraries algorithms certs (derAt certs index) = derAt certs anchor := by
  simp only [firstAnchor, made.linked_eq] at found
  unfold closingAnchor
  rw [← find?_get]
  simp only [derAt] at found
  rw [derAt, found]
  rfl

theorem closingAnchor_spec
    (closed : (made.chains algorithms).closed der) :
    Anchor libraries issuerCerts endEntity (closingAnchor libraries algorithms certs der) ∧
      isIssuedBy libraries algorithms der (closingAnchor libraries algorithms certs der) = true := by
  obtain ⟨anchor, isAnchor, issued⟩ := closed
  obtain ⟨index, rfl, flagged⟩ := made.exists_anchor isAnchor
  unfold closingAnchor
  split
  · rename_i first found
    have suits := List.find?_some found
    rw [Bool.and_eq_true] at suits
    obtain ⟨place, rfl⟩ := List.mem_iff_get.mp (List.mem_of_find?_eq_some found)
    exact ⟨(made.anchor_iff place).mp suits.1, suits.2⟩
  · rename_i missing
    have none := List.find?_eq_none.mp missing _ (List.get_mem certs index)
    rw [flagged, Bool.true_and] at none
    exact absurd issued none

variable {chain : List (Fin certs.length)} {path : List Octets}

theorem upToConfigured_iff (walk : (made.chains algorithms).Walk (chain.map (derAt certs))) :
    UpToConfigured libraries issuerCerts (chain.map (derAt certs)) path ↔
      ∃ cut, furthestConfigured certs chain = some cut ∧ cut.map (derAt certs) = path := by
  -- only the first certificate of a chain is the end entity
  have later {front : List (Fin certs.length)} {last : Fin certs.length} {rest : List (Fin certs.length)}
      (whole : chain = front ++ last :: rest) (present : front ≠ []) {index : Fin certs.length}
      (member : index ∈ last :: rest) :
      (certs.get index).configured = true ↔ Configured libraries issuerCerts (derAt certs index) := by
    rw [made.configured_iff, and_iff_left_iff_imp]
    intro _ isFirst
    have starts := walk.starts
    have distinct := walk.distinct
    rw [whole, List.map_append] at starts distinct
    rw [List.head?_append_of_ne_nil _ (mt List.map_eq_nil_iff.mp present)] at starts
    refine (List.nodup_append'.mp distinct).2.2 (List.mem_of_head? starts) ?_
    exact isFirst ▸ List.mem_map_of_mem member
  refine ⟨?_, ?_⟩
  · intro ⟨front, last, rest, whole, present, listed, plain, pathIs⟩
    obtain ⟨frontAt, others, rfl, rfl, othersAre⟩ := List.map_eq_append_iff.mp whole
    obtain ⟨lastAt, restAt, rfl, rfl, rfl⟩ := List.map_eq_cons_iff.mp othersAre
    have presentAt : frontAt ≠ [] := fun empty => present (by rw [empty]; rfl)
    refine ⟨frontAt ++ [lastAt], furthestConfigured_eq_some.mpr ⟨frontAt, lastAt, restAt, rfl, presentAt, ?_, ?_, rfl⟩, ?_⟩
    · exact (later rfl presentAt List.mem_cons_self).mpr listed
    · grind
    · rw [pathIs, List.map_append, List.map_singleton]
  · intro ⟨cut, found, pathIs⟩
    obtain ⟨front, last, rest, whole, present, configured, plain, cutIs⟩ := furthestConfigured_eq_some.mp found
    refine ⟨front.map (derAt certs), derAt certs last, rest.map (derAt certs), ?_, ?_, ?_, ?_, ?_⟩
    · rw [whole, List.map_append, List.map_cons]
    · exact fun empty => present (List.map_eq_nil_iff.mp empty)
    · exact (later whole present List.mem_cons_self).mp configured
    · grind
    · rw [← pathIs, cutIs, List.map_append, List.map_singleton]

omit made in
theorem anchor_notMem {chain : List Octets} (anchor : Anchor libraries issuerCerts endEntity der)
    (walk : (certificateChains libraries algorithms issuerCerts endEntity intermediates now).Walk chain) : der ∉ chain := by
  induction chain using List.reverseRecOn with
  | nil => exact List.not_mem_nil
  | append_singleton chain last ih =>
    rw [List.mem_append, List.mem_singleton]
    rcases chain.eq_nil_or_concat' with rfl | ⟨front, current, rfl⟩
    · have start : last = endEntity := (walk_singleton.mp walk).1
      simpa [start] using anchor.2.1
    · -- the certificate before an anchor would have ended the chain
      obtain ⟨shorter, goes⟩ := walk_snoc.mp walk
      rintro (earlier | rfl)
      · exact ih shorter earlier
      · exact goes.beyond ⟨der, anchor, goes.step⟩

theorem outcome_iff (walk : (made.chains algorithms).Walk (chain.map (derAt certs))) :
    (∃ cut, outcome algorithms certs chain = some cut ∧ cut.map (derAt certs) = path) ↔
      ∃ last, (chain.map (derAt certs)).getLast? = some last ∧
        ((made.chains algorithms).closed last ∧
            path = chain.map (derAt certs) ++ [closingAnchor libraries algorithms certs last] ∨
          ¬ (made.chains algorithms).closed last ∧
            UpToConfigured libraries issuerCerts (chain.map (derAt certs)) path) := by
  obtain ⟨front, current, rfl⟩ : ∃ front current, chain = front ++ [current] := by
    rcases chain.eq_nil_or_concat' with rfl | split
    · exact absurd walk not_walk_nil
    · exact split
  simp only [List.getLast?_map, List.getLast?_concat, Option.map_some, Option.some.injEq, exists_eq_left', outcome,
    Option.bind_some, ← made.firstAnchor_isSome current, made.upToConfigured_iff walk]
  cases found : firstAnchor algorithms certs current with
  | some anchor =>
    simp only [Option.some.injEq, exists_eq_left', Option.isSome_some, true_and, not_true_eq_false, false_and,
      or_false, made.closingAnchor_eq found, List.map_append, List.map_singleton]
    exact eq_comm
  | none => simp

end IsArena

end Chains

theorem buildPaths_eq_ok {libraries : Libraries} {algorithms : WebPkiSupportedAlgorithms}
    {issuerCerts intermediates : List Octets} {endEntity : Octets} {now : UnixTime} {paths : List (List Octets)}
    (built : buildPaths libraries algorithms issuerCerts endEntity intermediates now = .ok paths) :
    ∃ (certs : List PathCert) (start : Fin certs.length) (found : List (List (Fin certs.length))),
      IsArena libraries issuerCerts endEntity intermediates now certs ∧ start.val = 0 ∧
        explorePaths algorithms certs start = .ok found ∧ paths = found.map (List.map (derAt certs)) := by
  unfold buildPaths at built
  split at built
  · cases built
  · rename_i ee parsed
    obtain ⟨found, explored, rest⟩ := Results.bind_eq_ok.mp built
    split at rest
    · cases rest
    · cases rest
      exact ⟨_, ⟨0, arena_length_pos⟩, found, ⟨ee, parsed, rfl⟩, rfl, explored, rfl⟩

section Built

variable {libraries : Libraries} {algorithms : WebPkiSupportedAlgorithms} {issuerCerts intermediates path : List Octets}
  {endEntity : Octets} {now : UnixTime} {paths : List (List Octets)}

theorem IsArena.mem_paths {start : Fin certs.length} {found : List (List (Fin certs.length))}
    (made : IsArena libraries issuerCerts endEntity intermediates now certs) (first : start.val = 0)
    (explored : explorePaths algorithms certs start = .ok found) :
    path ∈ found.map (List.map (derAt certs)) ↔ ∃ chain last,
      (made.chains algorithms).Maximal chain ∧
      chain.getLast? = some last ∧
      ((made.chains algorithms).closed last ∧
          path = chain ++ [closingAnchor libraries algorithms certs last] ∨
        ¬ (made.chains algorithms).closed last ∧
          UpToConfigured libraries issuerCerts chain path) := by
  simp only [List.mem_map, made.mem_explorePaths first explored]
  refine ⟨?_, ?_⟩
  · intro ⟨cut, ⟨chain, maximal, ends⟩, pathIs⟩
    obtain ⟨last, lastIs, shape⟩ := (made.outcome_iff maximal.walk).mp ⟨cut, ends, pathIs⟩
    exact ⟨_, last, maximal, lastIs, shape⟩
  · intro ⟨ders, last, maximal, lastIs, shape⟩
    obtain ⟨trail, rfl⟩ := maximal.walk.named made.looks ((made.der_eq_endEntity start).mpr first)
    obtain ⟨cut, ends, pathIs⟩ := (made.outcome_iff maximal.walk).mpr ⟨last, lastIs, shape⟩
    exact ⟨cut, ⟨_, maximal, ends⟩, pathIs⟩

theorem buildPaths_isChain (built : buildPaths libraries algorithms issuerCerts endEntity intermediates now = .ok paths)
    (member : path ∈ paths) : path.IsChain fun child parent => isIssuedBy libraries algorithms child parent = true := by
  obtain ⟨certs, start, found, made, first, explored, rfl⟩ := buildPaths_eq_ok built
  obtain ⟨chain, last, maximal, ends, shape⟩ := (made.mem_paths first explored).mp member
  have linked := maximal.walk.linked
  rcases shape with ⟨closed, rfl⟩ | ⟨_, front, cut, rest, rfl, _, _, _, rfl⟩
  · apply linked.append (List.isChain_singleton _)
    intro child isLast parent isAnchor
    cases ends.symm.trans isLast
    cases isAnchor
    exact (made.closingAnchor_spec closed).2
  · rw [← List.singleton_append, ← List.append_assoc] at linked
    exact linked.left_of_append

/-- The paths are exactly the maximal chains that an anchor closes, each with one
such anchor, and the other maximal chains up to the last certificate that is
configured; no path repeats a certificate. -/
theorem buildPaths_exact (built : buildPaths libraries algorithms issuerCerts endEntity intermediates now = .ok paths) :
    ∃ closing : Octets → Octets,
      (∀ last, (certificateChains libraries algorithms issuerCerts endEntity intermediates now).closed last →
        Anchor libraries issuerCerts endEntity (closing last) ∧
          isIssuedBy libraries algorithms last (closing last) = true) ∧
      (∀ path, path ∈ paths ↔ ∃ chain last,
        (certificateChains libraries algorithms issuerCerts endEntity intermediates now).Maximal chain ∧
        chain.getLast? = some last ∧
        ((certificateChains libraries algorithms issuerCerts endEntity intermediates now).closed last ∧
            path = chain ++ [closing last] ∨
          ¬ (certificateChains libraries algorithms issuerCerts endEntity intermediates now).closed last ∧
            UpToConfigured libraries issuerCerts chain path)) ∧
      ∀ path ∈ paths, path.Nodup := by
  obtain ⟨certs, start, found, made, first, explored, rfl⟩ := buildPaths_eq_ok built
  refine ⟨closingAnchor libraries algorithms certs, fun last => made.closingAnchor_spec,
    fun path => made.mem_paths first explored, ?_⟩
  intro path member
  obtain ⟨ders, last, maximal, _, shape⟩ := (made.mem_paths first explored).mp member
  rcases shape with ⟨closed, rfl⟩ | ⟨_, front, cut, rest, rfl, _, _, _, rfl⟩
  · have anchor := (made.closingAnchor_spec closed).1
    apply List.nodup_append'.mpr ⟨maximal.walk.distinct, List.nodup_singleton _, ?_⟩
    intro der onChain same
    rw [List.mem_singleton.mp same] at onChain
    exact IsArena.anchor_notMem anchor maximal.walk onChain
  · have distinct := maximal.walk.distinct
    rw [← List.singleton_append, ← List.append_assoc] at distinct
    exact distinct.of_append_left

end Built

/-- A leaf below an authority with two certificates, which the peer sends: one by
a root that is configured, and one by an authority that is configured without
its own issuer. -/
theorem samplePki_paths :
    let root := Sample.certificate 1 1 1 1 1 1
    let bridge := Sample.certificate 2 9 2 1 1 9
    let leaf := Sample.certificate 4 3 4 1 0 3
    let byRoot := Sample.certificate 3 1 3 1 1 1
    let byBridge := Sample.certificate 3 2 3 2 1 2
    buildPaths Sample.libraries Sample.algorithms [root, bridge] leaf [byRoot, byBridge] ⟨0, by decide⟩ =
        .ok [[leaf, byBridge, bridge], [leaf, byRoot, root]] ∧
      ∀ path ∈ [[leaf, byBridge, bridge], [leaf, byRoot, root]], path.Nodup := by
  have built : buildPaths Sample.libraries Sample.algorithms [Sample.certificate 1 1 1 1 1 1, Sample.certificate 2 9 2 1 1 9]
      (Sample.certificate 4 3 4 1 0 3) [Sample.certificate 3 1 3 1 1 1, Sample.certificate 3 2 3 2 1 2] ⟨0, by decide⟩ =
      .ok [[Sample.certificate 4 3 4 1 0 3, Sample.certificate 3 2 3 2 1 2, Sample.certificate 2 9 2 1 1 9],
        [Sample.certificate 4 3 4 1 0 3, Sample.certificate 3 1 3 1 1 1, Sample.certificate 1 1 1 1 1 1]] := by
    decide +kernel
  obtain ⟨_, _, _, distinct⟩ := buildPaths_exact built
  exact ⟨built, distinct⟩

end UsgRadius.Revocation
