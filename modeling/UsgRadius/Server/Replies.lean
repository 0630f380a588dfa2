import UsgRadius.Proxy.Rewrite
import UsgRadius.Server.PolicyEnforce

namespace UsgRadius

open Data Auth AttributeType

/-- The errors of an accounting handler. -/
inductive AccountingError where
  | missingAttribute (name : String)
  | invalidAttributeValue (attr reason : String)
  | invalidStatusType (value : UInt32)
  | invalidTerminateCause (value : UInt32)
  | sessionNotFound (sessionId : String)
  | duplicateSession (sessionId : String)
  | sessionLimitExceeded (username : String) (current max : Nat)
deriving DecidableEq

inductive ServerError where
  | io (message : String)
  | packet (error : PacketError)
  | validation (message : String)
  | authFailed
  | invalidClient
  | duplicateRequest
  | discarded
  | rateLimited
  | accounting (error : AccountingError)
deriving DecidableEq

namespace Server

open Proxy (setFirst hasAttribute resigned)

/-- How a request fails: with an error, or by a panic. -/
inductive Fault where
  | error (error : ServerError)
  | panic (panic : Panic)
deriving DecidableEq

def liftError {Value : Type} : Except ServerError Value → Except Fault Value
  | .ok value => .ok value
  | .error reason => .error (.error reason)

def liftPanic {Value : Type} : Except Panic Value → Except Fault Value
  | .ok value => .ok value
  | .error panic => .error (.panic panic)

def liftPacket {Value : Type} : Except PacketError Value → Except ServerError Value
  | .ok value => .ok value
  | .error reason => .error (.packet reason)

/-- `map_err(|_| ServerError::AuthFailed)`. -/
def orAuthFailed {Failure Value : Type} : Except Failure Value → Except ServerError Value
  | .ok value => .ok value
  | .error _ => .error .authFailed

inductive PortRole where
  | auth
  | accounting
  | any
deriving DecidableEq

namespace PortRole

def admits (role : PortRole) (code : Code) (accountingOnAuth : Bool) : Bool :=
  match role, code with
  | .any, _ => true
  | .auth, .statusServer | .accounting, .statusServer => true
  | .auth, .accessRequest => true
  | .auth, .accountingRequest => accountingOnAuth
  | .accounting, .accountingRequest => true
  | _, _ => false

def statusServerReplyCode : PortRole → Code
  | .accounting => .accountingResponse
  | .auth | .any => .accessAccept

end PortRole

/-- `for attr in attributes { response.add_attribute(attr) }`. -/
def addAttributes (response : Packet) (attributes : List Attribute) : Packet :=
  attributes.foldl Packet.addAttribute response

def proxyStates (request : Packet) : List Attribute :=
  request.findAllAttributes proxyState.asU8

def copyProxyState (request response : Packet) : Packet :=
  addAttributes response (proxyStates request)

def singleValuedReplyAttrs : List UInt8 :=
  [sessionTimeout.asU8, idleTimeout.asU8, terminationAction.asU8,
    PolicyEnforce.tunnelType, PolicyEnforce.tunnelMediumType, PolicyEnforce.tunnelPrivateGroupId]

def addPolicyReplyAttribute (response : Packet) (attr : Attribute) : Packet :=
  if attr.attrType ∈ singleValuedReplyAttrs then
    { response with attributes := response.attributes.filter (·.attrType ≠ attr.attrType) }.addAttribute attr
  else
    response.addAttribute attr

variable (digests : Digests)

/-- A zeroed Message-Authenticator, unless there is one. -/
def reserveMessageAuthenticator (response : Packet) : Except PacketError Packet :=
  if hasAttribute messageAuthenticator.asU8 response.attributes then
    .ok response
  else do
    let attr ← Attribute.new messageAuthenticator.asU8 (List.replicate 16 0)
    return response.addAttribute attr

def addMessageAuthenticator (response : Packet) (requestAuthenticator : Block 16) (secret : Octets) :
    Except PacketError Packet := do
  let response ← reserveMessageAuthenticator response
  let packetBytes ← { response with authenticator := requestAuthenticator }.encode
  let mac := calculateMessageAuthenticator digests packetBytes secret
  return { response with
    attributes := setFirst messageAuthenticator.asU8 mac.octets response.attributes }

def addMessageAuthenticatorIfEap (response : Packet) (requestAuthenticator : Block 16) (secret : Octets) :
    Except PacketError Packet :=
  if hasAttribute eapMessage.asU8 response.attributes then
    addMessageAuthenticator digests response requestAuthenticator secret
  else
    .ok response

/-- How every reply ends: the Proxy-States of the request, perhaps a
Message-Authenticator, and the Response Authenticator over all of it. -/
def finish (sign : Packet → Except ServerError Packet) (request response : Packet) (secret : Octets) :
    Except Fault Packet := do
  let response := copyProxyState request response
  let response ← liftError (sign response)
  let responseAuth ← liftPanic (calculateResponseAuthenticator digests response request.authenticator secret)
  return { response with authenticator := responseAuth }

def finishAccess (request response : Packet) (secret : Octets) : Except Fault Packet :=
  finish digests (fun response =>
    orAuthFailed (addMessageAuthenticatorIfEap digests response request.authenticator secret)) request response secret

def finishStatus (request response : Packet) (secret : Octets) : Except Fault Packet :=
  finish digests (fun response =>
    liftPacket (addMessageAuthenticator digests response request.authenticator secret)) request response secret

def finishAccounting (request response : Packet) (secret : Octets) : Except Fault Packet :=
  finish digests .ok request response secret

section Lifting

variable {Value Failure : Type} {value : Value}

@[simp] theorem liftError_ok : liftError (.ok value) = .ok value := rfl

@[simp] theorem liftError_eq_ok {result : Except ServerError Value} :
    liftError result = .ok value ↔ result = .ok value := by
  cases result <;> simp [liftError]

@[simp] theorem liftPanic_eq_ok {result : Except Panic Value} : liftPanic result = .ok value ↔ result = .ok value := by
  cases result <;> simp [liftPanic]

@[simp] theorem liftPacket_eq_ok {result : Except PacketError Value} :
    liftPacket result = .ok value ↔ result = .ok value := by
  cases result <;> simp [liftPacket]

@[simp] theorem orAuthFailed_eq_ok {result : Except Failure Value} :
    orAuthFailed result = .ok value ↔ result = .ok value := by
  cases result <;> simp [orAuthFailed]

end Lifting

section Finished

variable {digests} {request response result packet : Packet} {requestAuthenticator : Block 16} {secret : Octets}

@[simp] theorem addAttributes_eq (response : Packet) (attributes : List Attribute) :
    addAttributes response attributes = { response with attributes := response.attributes ++ attributes } := by
  induction attributes generalizing response with
  | nil => simp [addAttributes]
  | cons attr rest ih =>
    have tail := ih (response.addAttribute attr)
    simp only [addAttributes, List.foldl_cons] at tail ⊢
    rw [tail]
    simp [Packet.addAttribute]

theorem proxyStates_type {attr : Attribute} (member : attr ∈ proxyStates request) :
    attr ∈ request.attributes ∧ attr.attrType = proxyState.asU8 := by
  simpa [proxyStates, Packet.findAllAttributes] using member

theorem addMessageAuthenticator_eq_ok (unsigned : Unsigned response.attributes) :
    addMessageAuthenticator digests response requestAuthenticator secret = .ok result ↔
      (macInput response requestAuthenticator response.attributes []).Encodable ∧
        result = resigned digests response requestAuthenticator secret response.attributes [] := by
  have absent := Proxy.unsigned_iff.mp unsigned
  have reserved : reserveMessageAuthenticator response =
      .ok (response.addAttribute ⟨messageAuthenticator.asU8, List.replicate 16 0⟩) := by
    rw [reserveMessageAuthenticator, absent]
    rfl
  simp only [addMessageAuthenticator, reserved, Results.ok_bind, Results.bind_eq_ok, Packet.addAttribute,
    Proxy.setFirst_signed unsigned, Packet.encode_eq_ok]
  refine ⟨?_, ?_⟩
  · rintro ⟨packetBytes, ⟨encodable, encoded⟩, assembled⟩
    subst packetBytes
    cases assembled
    exact ⟨encodable, rfl⟩
  · rintro ⟨encodable, assembled⟩
    subst result
    exact ⟨_, ⟨encodable, rfl⟩, rfl⟩

/-- What a way of signing does to an unsigned reply: nothing, where that is
allowed, or a Message-Authenticator at the end. -/
def Signs (digests : Digests) (requestAuthenticator : Block 16) (secret : Octets) (required : Packet → Prop)
    (sign : Packet → Except ServerError Packet) : Prop :=
  ∀ response result, Unsigned response.attributes → sign response = .ok result →
    (¬ required response ∧ result = response) ∨
      result = resigned digests response requestAuthenticator secret response.attributes []

def carriesEap (packet : Packet) : Prop :=
  hasAttribute eapMessage.asU8 packet.attributes = true

theorem signs_access : Signs digests requestAuthenticator secret carriesEap fun response =>
    orAuthFailed (addMessageAuthenticatorIfEap digests response requestAuthenticator secret) := by
  intro response result unsigned signed
  rw [orAuthFailed_eq_ok, addMessageAuthenticatorIfEap] at signed
  split at signed
  · exact .inr ((addMessageAuthenticator_eq_ok unsigned).mp signed).2
  · rename_i noEap
    cases signed
    exact .inl ⟨noEap, rfl⟩

theorem signs_status : Signs digests requestAuthenticator secret (fun _ => True) fun response =>
    liftPacket (addMessageAuthenticator digests response requestAuthenticator secret) := by
  intro response result unsigned signed
  rw [liftPacket_eq_ok] at signed
  exact .inr ((addMessageAuthenticator_eq_ok unsigned).mp signed).2

theorem signs_accounting : Signs digests requestAuthenticator secret (fun _ => False) .ok := by
  intro response result _ signed
  cases signed
  exact .inl ⟨id, rfl⟩

/-- `packet` is `response` with what every reply adds to it. -/
structure Finishes (digests : Digests) (request : Packet) (secret : Octets) (response : Packet) (required : Prop)
    (packet : Packet) : Prop where
  code : packet.code = response.code
  identifier : packet.identifier = response.identifier
  authentic : verifyResponseAuthenticator digests packet request.authenticator secret = .ok true
  attributes : ∃ signature, packet.attributes = response.attributes ++ proxyStates request ++ signature ∧
    ∀ attr ∈ signature, attr.attrType = messageAuthenticator.asU8
  signed : required → checkMessageAuthenticator digests packet request.authenticator secret = .ok .valid

theorem copyProxyState_unsigned (request : Packet) (unsigned : Unsigned response.attributes) :
    Unsigned (copyProxyState request response).attributes := by
  intro attr member
  simp only [copyProxyState, addAttributes_eq, List.mem_append] at member
  rcases member with own | copied
  · exact unsigned attr own
  · rw [(proxyStates_type copied).2]
    decide

theorem check_resigned (authenticator : Block 16) (unsigned : Unsigned response.attributes)
    (encodable : { resigned digests response requestAuthenticator secret response.attributes [] with
      authenticator }.Encodable) :
    checkMessageAuthenticator digests
      { resigned digests response requestAuthenticator secret response.attributes [] with authenticator }
      requestAuthenticator secret = .ok .valid := by
  have nothing : Unsigned [] := by simp [Unsigned]
  rw [check_signed requestAuthenticator secret encodable (Block.size _) unsigned nothing rfl]
  exact congrArg Except.ok (if_pos rfl)

theorem finish_finishes {sign : Packet → Except ServerError Packet} {required : Packet → Prop}
    (signs : Signs digests request.authenticator secret required sign) (unsigned : Unsigned response.attributes)
    (built : finish digests sign request response secret = .ok packet) (encodable : packet.Encodable) :
    Finishes digests request secret response (required (copyProxyState request response)) packet := by
  simp only [finish, Results.bind_eq_ok, liftError_eq_ok, liftPanic_eq_ok, Results.pure_eq, Except.ok.injEq] at built
  obtain ⟨signed, signing, responseAuth, calculated, rfl⟩ := built
  have fits : ∀ attr ∈ signed.attributes, attr.Fits := encodable.fits
  rw [calculateResponseAuthenticator_of_fits _ _ fits] at calculated
  cases calculated
  have authentic : verifyResponseAuthenticator digests { signed with
      authenticator := responseDigest digests signed request.authenticator secret } request.authenticator secret =
        .ok true := by
    rw [verifyResponseAuthenticator_of_fits _ _ encodable.fits]
    simp
  have copied := copyProxyState_unsigned request unsigned
  have attributes : (copyProxyState request response).attributes = response.attributes ++ proxyStates request := by
    simp [copyProxyState]
  have header : (copyProxyState request response).code = response.code ∧
      (copyProxyState request response).identifier = response.identifier := by
    simp [copyProxyState]
  rcases signs _ _ copied signing with ⟨exempt, rfl⟩ | rfl
  · refine ⟨header.1, header.2, authentic, ⟨[], ?_, by simp⟩, fun needed => absurd needed exempt⟩
    rw [List.append_nil, attributes]
  · refine ⟨header.1, header.2, authentic, ?_, fun _ => check_resigned _ copied encodable⟩
    obtain ⟨mac, appended⟩ : ∃ mac, (resigned digests (copyProxyState request response) request.authenticator secret
        (copyProxyState request response).attributes []).attributes =
          (copyProxyState request response).attributes ++ [⟨messageAuthenticator.asU8, mac⟩] := ⟨_, rfl⟩
    exact ⟨_, by rw [appended, attributes], by simp⟩

end Finished

end Server

end UsgRadius
