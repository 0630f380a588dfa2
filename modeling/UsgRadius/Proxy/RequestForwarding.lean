import UsgRadius.Proxy.Rewrite

namespace UsgRadius.Proxy

open Data Auth
open AttributeType (userPassword messageAuthenticator eapMessage)

/-! What the home server receives for a request of the NAS. -/

variable {digests : Digests} {requestAuthenticator : Block 16} {clientSecret homeSecret : Octets}
  {attributes rekeyed : List Attribute} {request forwarded : Packet} {proxyState : ProxyStateKey}

inductive PasswordRekeyed (digests : Digests) (requestAuthenticator : Block 16)
    (clientSecret homeSecret : Octets) : Attribute → Attribute → Prop
  | other {attr : Attribute} (type : attr.attrType ≠ userPassword.asU8) :
      PasswordRekeyed digests requestAuthenticator clientSecret homeSecret attr attr
  | password {value : Octets} {password : String}
      (decrypted : decryptUserPassword digests value clientSecret requestAuthenticator = .ok password) :
      PasswordRekeyed digests requestAuthenticator clientSecret homeSecret
        ⟨userPassword.asU8, value⟩
        ⟨userPassword.asU8, encryptUserPassword digests password homeSecret requestAuthenticator⟩

theorem rekeyUserPasswords_sound
    (succeeded : rekeyUserPasswords digests requestAuthenticator clientSecret homeSecret attributes = .ok rekeyed) :
    List.Forall₂ (PasswordRekeyed digests requestAuthenticator clientSecret homeSecret) attributes rekeyed := by
  induction attributes generalizing rekeyed with
  | nil =>
    cases succeeded
    exact .nil
  | cons attr rest ih =>
    obtain ⟨attrType, value⟩ := attr
    simp only [rekeyUserPasswords] at succeeded
    split at succeeded
    · rename_i isPassword
      subst isPassword
      split at succeeded
      · cases succeeded
      · rename_i password decrypted
        rw [Results.bind_eq_ok] at succeeded
        obtain ⟨others, remaining, assembled⟩ := succeeded
        cases assembled
        exact .cons (.password decrypted) (ih remaining)
    · rename_i type
      rw [Results.bind_eq_ok] at succeeded
      obtain ⟨others, remaining, assembled⟩ := succeeded
      cases assembled
      exact .cons (.other type) (ih remaining)

section

variable (related : List.Forall₂ (PasswordRekeyed digests requestAuthenticator clientSecret homeSecret) attributes rekeyed)

include related

theorem rekeyed_view {View : Type} (view : Attribute → Option View)
    (blind : ∀ value, view ⟨userPassword.asU8, value⟩ = none) :
    rekeyed.filterMap view = attributes.filterMap view := by
  induction related with
  | nil => rfl
  | cons step _ ih =>
    cases step with
    | other type => rw [List.filterMap_cons, List.filterMap_cons, ih]
    | password decrypted =>
      rw [List.filterMap_cons_none (blind _), List.filterMap_cons_none (blind _), ih]

theorem rekeyed_types : rekeyed.map Attribute.attrType = attributes.map Attribute.attrType := by
  induction related with
  | nil => rfl
  | cons step _ ih => cases step <;> simp only [List.map_cons, ih]

def userPasswords (digests : Digests) (packet : Packet) (secret : Octets) : List (Except PasswordError String) :=
  packet.attributes.filterMap fun attr =>
    if attr.attrType = userPassword.asU8 then
      some (decryptUserPassword digests attr.value secret packet.authenticator)
    else
      none

theorem rekeyed_passwords : (rekeyed.filterMap fun attr =>
        if attr.attrType = userPassword.asU8 then
          some (decryptUserPassword digests attr.value homeSecret requestAuthenticator)
        else none) =
      attributes.filterMap fun attr =>
        if attr.attrType = userPassword.asU8 then
          some (decryptUserPassword digests attr.value clientSecret requestAuthenticator)
        else none := by
  induction related with
  | nil => rfl
  | cons step _ ih =>
    cases step with
    | other type => simp only [List.filterMap_cons, if_neg type, ih]
    | password decrypted =>
      have trimmed := (decryptUserPassword_shape decrypted).2.2.2
      simp only [List.filterMap_cons, if_true, ih, decrypted,
        decrypt_encryptUserPassword homeSecret requestAuthenticator trimmed]

theorem rekeyed_decrypt : ∀ attr ∈ attributes, attr.attrType = userPassword.asU8 →
      ∃ password, decryptUserPassword digests attr.value clientSecret requestAuthenticator = .ok password := by
  induction related with
  | nil => simp
  | cons step _ ih =>
    refine List.forall_mem_cons.mpr ⟨?_, ih⟩
    intro isPassword
    cases step with
    | other type => exact absurd isPassword type
    | password decrypted => exact ⟨_, decrypted⟩

end

/-- An attribute the proxy has no business changing in a request. -/
def carriedThrough (attr : Attribute) : Bool :=
  attr.attrType ≠ userPassword.asU8 &&
    attr.attrType ≠ messageAuthenticator.asU8 &&
      attr.attrType ≠ AttributeType.proxyState.asU8

/-- What the home server gets for `request`: the same packet, with our
Proxy-State added and the secret of the hop exchanged. -/
structure Forwarded (digests : Digests) (request forwarded : Packet) (proxyState : ProxyStateKey)
    (clientSecret homeSecret : Octets) : Prop where
  code : forwarded.code = request.code
  identifier : forwarded.identifier = request.identifier
  authenticator : forwarded.authenticator = request.authenticator
  decrypted : ∀ password ∈ userPasswords digests request clientSecret, ∃ text, password = .ok text
  passwords : userPasswords digests forwarded homeSecret = userPasswords digests request clientSecret
  signed : request.findAttribute messageAuthenticator.asU8 ≠ none ∨
      request.findAttribute eapMessage.asU8 ≠ none →
    checkMessageAuthenticator digests forwarded forwarded.authenticator homeSecret = .ok .valid
  proxyStates : forwarded.findAllAttributes AttributeType.proxyState.asU8 =
    request.findAllAttributes AttributeType.proxyState.asU8 ++
      [⟨AttributeType.proxyState.asU8, proxyState.octets⟩]
  others : forwarded.attributes.filter carriedThrough = request.attributes.filter carriedThrough

section

variable (rewritten : rewriteRequestForHomeServer digests request proxyState clientSecret homeSecret = .ok forwarded)

include rewritten

theorem rewriteRequest_steps :
    ∃ rekeyed, List.Forall₂ (PasswordRekeyed digests request.authenticator clientSecret homeSecret)
        (request.attributes ++ [⟨AttributeType.proxyState.asU8, proxyState.octets⟩]) rekeyed ∧
      recomputeMessageAuthenticator digests { request with attributes := rekeyed } request.authenticator
        homeSecret = .ok forwarded := by
  have accepted : Attribute.new AttributeType.proxyState.asU8 proxyState.octets =
      .ok ⟨AttributeType.proxyState.asU8, proxyState.octets⟩ :=
    Attribute.new_eq_ok.mpr ⟨by simp [Attribute.maxValueLength], rfl⟩
  simp only [rewriteRequestForHomeServer, accepted, Results.ok_bind, Results.bind_eq_ok] at rewritten
  obtain ⟨rekeyed, passwords, recomputed⟩ := rewritten
  exact ⟨rekeyed, rekeyUserPasswords_sound passwords, recomputed⟩

theorem rewriteRequest_header :
    forwarded.code = request.code ∧ forwarded.identifier = request.identifier ∧
      forwarded.authenticator = request.authenticator := by
  obtain ⟨rekeyed, _, recomputed⟩ := rewriteRequest_steps rewritten
  obtain ⟨code, identifier, authenticator, _⟩ := recompute_refreshed recomputed
  exact ⟨code, identifier, authenticator⟩

theorem rewriteRequest_proxyStates :
    forwarded.findAllAttributes AttributeType.proxyState.asU8 =
      request.findAllAttributes AttributeType.proxyState.asU8 ++
        [⟨AttributeType.proxyState.asU8, proxyState.octets⟩] := by
  obtain ⟨rekeyed, related, recomputed⟩ := rewriteRequest_steps rewritten
  have kept := (recompute_refreshed recomputed).filterMap (Option.guard (·.attrType = AttributeType.proxyState.asU8))
    fun value => rfl
  rw [rekeyed_view related _ fun value => rfl, List.filterMap_append] at kept
  simpa [Packet.findAllAttributes] using kept

end

theorem request_forwarded {request forwarded : Packet} {proxyState : ProxyStateKey}
    (single : (request.findAllAttributes messageAuthenticator.asU8).length ≤ 1)
    (rewritten : rewriteRequestForHomeServer digests request proxyState clientSecret homeSecret = .ok forwarded) :
    Forwarded digests request forwarded proxyState clientSecret homeSecret := by
  obtain ⟨rekeyed, related, recomputed⟩ := rewriteRequest_steps rewritten
  have types := rekeyed_types related
  have singleRekeyed : signatures rekeyed ≤ 1 := by
    rw [signatures_of_types types, signatures, List.filter_append, List.filter_cons_of_neg (by simp [AttributeType.asU8])]
    simpa [Packet.findAllAttributes] using single
  obtain ⟨code, identifier, authenticator⟩ := rewriteRequest_header rewritten
  refine ⟨code, identifier, authenticator, ?_, ?_, ?_, rewriteRequest_proxyStates rewritten, ?_⟩
  · intro password member
    obtain ⟨attr, present, shown⟩ := List.mem_filterMap.mp member
    split at shown
    · rename_i isPassword
      cases shown
      exact rekeyed_decrypt related attr (List.mem_append_left _ present) isPassword
    · cases shown
  · have relabelled := (recompute_refreshed recomputed).filterMap (fun attr =>
        if attr.attrType = userPassword.asU8 then
          some (decryptUserPassword digests attr.value homeSecret request.authenticator)
        else none)
      fun value => rfl
    rw [rekeyed_passwords related, List.filterMap_append] at relabelled
    rw [userPasswords, userPasswords, authenticator, relabelled]
    exact List.append_nil _
  · intro needed
    have needed : hasAttribute messageAuthenticator.asU8 rekeyed = true ∨
        hasAttribute eapMessage.asU8 rekeyed = true := by
      rw [hasAttribute_of_types _ types, hasAttribute_of_types _ types]
      simpa [hasAttribute, Packet.findAttribute, AttributeType.asU8] using needed
    obtain ⟨before, after, unsignedBefore, unsignedAfter, encodable, rfl⟩ :=
      recompute_resigns singleRekeyed needed recomputed
    exact check_resigned unsignedBefore unsignedAfter encodable request.authenticator
  · have kept := (recompute_refreshed recomputed).filterMap (Option.guard carriedThrough) fun value => rfl
    rw [rekeyed_view related _ fun value => rfl, List.filterMap_append] at kept
    simpa [carriedThrough] using kept

/-- An Access-Request with a User-Password sealed under the secret `[1, 2]`, an
EAP-Message and a Proxy-State of an earlier hop. -/
def sampleRequest : Packet where
  code := .accessRequest
  identifier := 7
  authenticator := Block.fill 16 9
  attributes := [⟨AttributeType.userName.asU8, [98, 111, 98]⟩,
    ⟨userPassword.asU8,
      encryptUserPassword .checksum "hi" [1, 2] (Block.fill 16 9)⟩,
    ⟨AttributeType.proxyState.asU8, [5]⟩,
    ⟨eapMessage.asU8, [2, 1, 0, 4]⟩]

theorem sampleRequest_forwarded :
    ∃ forwarded, rewriteRequestForHomeServer .checksum sampleRequest (Block.fill 16 3) [1, 2] [4, 5] =
        .ok forwarded ∧
      Forwarded .checksum sampleRequest forwarded (Block.fill 16 3) [1, 2] [4, 5] := by
  obtain ⟨forwarded, rewritten⟩ : ∃ forwarded, rewriteRequestForHomeServer .checksum sampleRequest
      (Block.fill 16 3) [1, 2] [4, 5] = .ok forwarded :=
    Results.exists_of_isOk (by decide +kernel)
  exact ⟨forwarded, rewritten, request_forwarded (by decide) rewritten⟩

end UsgRadius.Proxy
