import UsgRadius.Packet.Codec

namespace UsgRadius

open Data AttributeType

/-- The `Debug` text of a code. -/
def Code.debug : Code → String
  | accessRequest => "AccessRequest"
  | accessAccept => "AccessAccept"
  | accessReject => "AccessReject"
  | accountingRequest => "AccountingRequest"
  | accountingResponse => "AccountingResponse"
  | accessChallenge => "AccessChallenge"
  | statusServer => "StatusServer"
  | statusClient => "StatusClient"
  | disconnectRequest => "DisconnectRequest"
  | disconnectAck => "DisconnectAck"
  | disconnectNak => "DisconnectNak"
  | coaRequest => "CoaRequest"
  | coaAck => "CoaAck"
  | coaNak => "CoaNak"

namespace Validation

inductive ValidationMode where
  | lenient
  | strict
deriving DecidableEq

structure ValidationError where
  message : String
  attributeType : Option UInt8
deriving DecidableEq

namespace ValidationError

def new (message : String) : ValidationError :=
  { message, attributeType := none }

def withAttribute (message : String) (attrType : UInt8) : ValidationError :=
  { message, attributeType := some attrType }

/-- The `Display` text of the error. -/
def text (error : ValidationError) : String :=
  match error.attributeType with
  | some attrType => s!"Attribute {attrType}: {error.message}"
  | none => error.message

end ValidationError

def present (packet : Packet) (attrType : AttributeType) : Bool :=
  (packet.findAttribute attrType.asU8).isSome

def validateAccessRequest (packet : Packet) (_mode : ValidationMode) : Except ValidationError Unit :=
  let hasUserPassword := present packet .userPassword
  let hasChapPassword := present packet .chapPassword
  if !present packet .userName then
    .error (.withAttribute "User-Name attribute is required in Access-Request" userName.asU8)
  else if present packet .eapMessage && (hasUserPassword || hasChapPassword) then
    .error (.new
      "EAP-Message is present; User-Password/CHAP-Password MUST NOT be included (RFC 3579 §3.1)")
  else if !present packet .eapMessage && (!hasUserPassword && !hasChapPassword) then
    .error (.new
      "Either User-Password, CHAP-Password, or EAP-Message is required in Access-Request")
  else if !present packet .eapMessage && (hasUserPassword && hasChapPassword) then
    .error (.new "User-Password and CHAP-Password cannot both be present in Access-Request")
  else if !present packet .nasIpAddress && !present packet .nasIdentifier then
    .error (.new "Either NAS-IP-Address or NAS-Identifier is required in Access-Request (RFC 2865)")
  else
    .ok ()

def validateAccessAccept (_packet : Packet) (_mode : ValidationMode) : Except ValidationError Unit := .ok ()

def validateAccessReject (_packet : Packet) (_mode : ValidationMode) : Except ValidationError Unit := .ok ()

def validateStatusServer (_packet : Packet) (_mode : ValidationMode) : Except ValidationError Unit := .ok ()

def validateAccountingRequest (packet : Packet) (_mode : ValidationMode) : Except ValidationError Unit :=
  if !present packet .acctStatusType then
    .error (.withAttribute "Acct-Status-Type attribute is required in Accounting-Request"
      acctStatusType.asU8)
  else
    .ok ()

def validateAccountingResponse (_packet : Packet) (_mode : ValidationMode) : Except ValidationError Unit := .ok ()

def validateStringAttribute (attr : Attribute) : Except ValidationError Unit :=
  if attr.asString.isNone then
    .error (.withAttribute "Invalid UTF-8 in string attribute" attr.attrType)
  else
    .ok ()

def validateIntegerAttribute (attr : Attribute) : Except ValidationError Unit :=
  if attr.value.length ≠ 4 then
    .error (.withAttribute s!"Integer attribute must be 4 bytes, got {attr.value.length}" attr.attrType)
  else
    .ok ()

def validateIpv4Attribute (attr : Attribute) : Except ValidationError Unit :=
  if attr.value.length ≠ 4 then
    .error (.withAttribute s!"IPv4 address attribute must be 4 bytes, got {attr.value.length}" attr.attrType)
  else
    .ok ()

/-- An integer whose values are enumerated; strict mode insists on one of them. -/
def validateEnumerated (valid : Nat → Bool) (complaint : Nat → String) (attr : Attribute) (mode : ValidationMode) :
    Except ValidationError Unit := do
  validateIntegerAttribute attr
  let value := fromBe attr.value
  if !valid value && mode = .strict then
    throw (.withAttribute (complaint value) attr.attrType)

def validateServiceType : Attribute → ValidationMode → Except ValidationError Unit :=
  validateEnumerated (fun value => 1 ≤ value && value ≤ 13)
    fun value => s!"Invalid Service-Type value: {value} (must be 1-13)"

def validateFramedProtocol : Attribute → ValidationMode → Except ValidationError Unit :=
  validateEnumerated (fun value => 1 ≤ value && value ≤ 7)
    fun value => s!"Invalid Framed-Protocol value: {value} (must be 1-7)"

def validateFramedRouting : Attribute → ValidationMode → Except ValidationError Unit :=
  validateEnumerated (fun value => value ≤ 3)
    fun value => s!"Invalid Framed-Routing value: {value} (must be 0-3)"

def validateFramedCompression : Attribute → ValidationMode → Except ValidationError Unit :=
  validateEnumerated (fun value => value ≤ 3)
    fun value => s!"Invalid Framed-Compression value: {value} (must be 0-3)"

def validateLoginService : Attribute → ValidationMode → Except ValidationError Unit :=
  validateEnumerated (fun value => value ≤ 8) fun value => s!"Invalid Login-Service value: {value}"

def validateTerminationAction : Attribute → ValidationMode → Except ValidationError Unit :=
  validateEnumerated (fun value => value = 0 || value = 1)
    fun value => s!"Invalid Termination-Action value: {value} (must be 0-1)"

def stringTypes : List AttributeType :=
  [.userName, .filterId, .replyMessage, .callbackNumber, .callbackId, .calledStationId, .callingStationId,
    .nasIdentifier]

def integerTypes : List AttributeType :=
  [.nasPort, .sessionTimeout, .idleTimeout, .loginTcpPort, .framedMtu]

def ipv4Types : List AttributeType :=
  [.nasIpAddress, .framedIpAddress, .framedIpNetmask, .loginIpHost]

def listed (types : List AttributeType) (attr : Attribute) : Bool :=
  types.any fun attrType => attr.attrType = attrType.asU8

def validateAttribute (attr : Attribute) (mode : ValidationMode) : Except ValidationError Unit :=
  if listed stringTypes attr then validateStringAttribute attr
  else if attr.attrType = serviceType.asU8 then validateServiceType attr mode
  else if attr.attrType = framedProtocol.asU8 then validateFramedProtocol attr mode
  else if attr.attrType = framedRouting.asU8 then validateFramedRouting attr mode
  else if attr.attrType = framedCompression.asU8 then validateFramedCompression attr mode
  else if attr.attrType = loginService.asU8 then validateLoginService attr mode
  else if attr.attrType = terminationAction.asU8 then validateTerminationAction attr mode
  else if listed integerTypes attr then validateIntegerAttribute attr
  else if listed ipv4Types attr then validateIpv4Attribute attr
  else .ok ()

def validateByCode (packet : Packet) (mode : ValidationMode) : Except ValidationError Unit :=
  match packet.code with
  | .accessRequest => validateAccessRequest packet mode
  | .accessAccept => validateAccessAccept packet mode
  | .accessReject => validateAccessReject packet mode
  | .statusServer => validateStatusServer packet mode
  | .accountingRequest => validateAccountingRequest packet mode
  | .accountingResponse => validateAccountingResponse packet mode
  | _ =>
    if mode = .strict then
      .error (.new s!"Unsupported packet type: {packet.code.debug}")
    else
      .ok ()

def validatePacket (packet : Packet) (mode : ValidationMode) : Except ValidationError Unit := do
  validateByCode packet mode
  packet.attributes.forM fun attr => validateAttribute attr mode

end Validation

end UsgRadius
