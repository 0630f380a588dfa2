import UsgRadius.Server.Policy

namespace UsgRadius.PolicyEnforce

open Data Policy AttributeType Attribute

/-! The policy engine against live packets: the context of an Access-Request, and
the attributes a profile returns. -/

def readU32 (request : Packet) (attrType : UInt8) : Option Nat :=
  (request.findAttribute attrType).bind fun attr =>
    if attr.value.length = 4 then some (fromBe attr.value) else none

def nasPortTypeName : Nat → String
  | 0 => "Async"
  | 1 => "Sync"
  | 2 => "ISDN-Sync"
  | 5 => "Virtual"
  | 15 => "Ethernet"
  | 17 => "Cable"
  | 18 => "Wireless-Other"
  | 19 => "Wireless-802.11"
  | other => toString other

def serviceTypeName : Nat → String
  | 1 => "Login"
  | 2 => "Framed"
  | 3 => "Callback-Login"
  | 4 => "Callback-Framed"
  | 5 => "Outbound"
  | 6 => "Administrative"
  | 7 => "NAS-Prompt"
  | 8 => "Authenticate-Only"
  | 9 => "Callback-NAS-Prompt"
  | 10 => "Call-Check"
  | 11 => "Callback-Administrative"
  | other => toString other

def framedProtocolName : Nat → String
  | 1 => "PPP"
  | 2 => "SLIP"
  | 3 => "ARAP"
  | 4 => "Gandalf-SLML"
  | 5 => "Xylogics-IPX-SLIP"
  | 6 => "X.75-Synchronous"
  | other => toString other

def eapTypeName : UInt8 → String
  | 1 => "Identity"
  | 2 => "Notification"
  | 4 => "MD5-Challenge"
  | 6 => "GTC"
  | 13 => "EAP-TLS"
  | 21 => "EAP-TTLS"
  | 25 => "PEAP"
  | 43 => "EAP-FAST"
  | 55 => "EAP-TEAP"
  | other => s!"EAP-Type-{other}"

def eapType (request : Packet) : Option String :=
  (request.findAttribute eapMessage.asU8).bind fun attr =>
    if 5 ≤ attr.value.length ∧ (attr.value.getD 0 0 = 1 ∨ attr.value.getD 0 0 = 2) then
      some (eapTypeName (attr.value.getD 4 0))
    else
      none

def dottedQuad (octets : Octets) : String :=
  s!"{octets.getD 0 0}.{octets.getD 1 0}.{octets.getD 2 0}.{octets.getD 3 0}"

def textEntries (texts : Texts) (request : Packet) : List (String × String) :=
  [("NAS-Identifier", nasIdentifier), ("Called-Station-Id", .calledStationId),
    ("Calling-Station-Id", .callingStationId), ("Filter-Id", .filterId)].filterMap fun (name, attrType) =>
      (request.findAttribute attrType.asU8).map fun attr => (name, texts.fromUtf8Lossy attr.value)

def nasIpAddress (request : Packet) : Option String :=
  (request.findAttribute AttributeType.nasIpAddress.asU8).bind fun attr =>
    if attr.value.length = 4 then some (dottedQuad attr.value) else none

def nasIpv6Address (texts : Texts) (request : Packet) : Option String :=
  (request.findAttribute AttributeType.nasIpv6Address.asU8).bind fun attr =>
    (Block.ofOctets? 16 attr.value).map texts.displayIpv6

def entry (name : String) (value : Option String) : List (String × String) :=
  (value.map fun value => (name, value)).toList

def requestContext (texts : Texts) (request : Packet) (username : String) : RequestContext where
  attributes :=
    ("User-Name", username) :: textEntries texts request ++
    entry "NAS-IP-Address" (nasIpAddress request) ++
    entry "NAS-IPv6-Address" (nasIpv6Address texts request) ++
    entry "NAS-Port-Type" ((readU32 request nasPortType.asU8).map nasPortTypeName) ++
    entry "Service-Type" ((readU32 request serviceType.asU8).map serviceTypeName) ++
    entry "Framed-Protocol" ((readU32 request framedProtocol.asU8).map framedProtocolName) ++
    entry "EAP-Type" (eapType request)

def tunnelTag : UInt8 := 1
def tunnelType : UInt8 := 64
def tunnelMediumType : UInt8 := 65
def tunnelPrivateGroupId : UInt8 := 81

def parseDigits : Octets → Nat → Option Nat
  | [], value => some value
  | octet :: rest, value =>
    if 48 ≤ octet && octet ≤ 57 then parseDigits rest (value * 10 + (octet.toNat - 48)) else none

/-- `str::parse::<u32>`: at least one digit, an optional plus sign, no overflow. -/
def parseU32 (text : String) : Option UInt32 :=
  let digits :=
    match utf8 text with
    | 43 :: rest => rest
    | octets => octets
  if digits = [] then
    none
  else
    (parseDigits digits 0).bind fun value => if value < 2 ^ 32 then some (UInt32.ofNat value) else none

def taggedInteger (attrType : UInt8) (value : UInt32) : Option Attribute :=
  (new attrType (tunnelTag :: toBe 3 value.toNat)).toOption

def replyAttribute (returned : ReplyAttribute) : Option Attribute :=
  match returned.name with
  | "Filter-Id" => (string filterId.asU8 returned.value).toOption
  | "Reply-Message" => (string replyMessage.asU8 returned.value).toOption
  | "Class" => (string classAttribute.asU8 returned.value).toOption
  | "Session-Timeout" =>
    (parseU32 returned.value).bind fun value => (integer sessionTimeout.asU8 value).toOption
  | "Idle-Timeout" =>
    (parseU32 returned.value).bind fun value => (integer idleTimeout.asU8 value).toOption
  | "Termination-Action" =>
    let value := asciiLowercaseOf returned.value
    if value = utf8 "radius-request" ∨ value = utf8 "1" then
      (integer terminationAction.asU8 1).toOption
    else if value = utf8 "default" ∨ value = utf8 "0" then
      (integer terminationAction.asU8 0).toOption
    else
      none
  | "Tunnel-Type" => (parseU32 returned.value).bind (taggedInteger tunnelType)
  | "Tunnel-Medium-Type" => (parseU32 returned.value).bind (taggedInteger tunnelMediumType)
  | "Tunnel-Private-Group-ID" =>
    (new tunnelPrivateGroupId (tunnelTag :: utf8 returned.value)).toOption
  | _ => none

def replyTypes : List UInt8 :=
  [filterId.asU8, replyMessage.asU8, classAttribute.asU8,
    sessionTimeout.asU8, idleTimeout.asU8, terminationAction.asU8,
    tunnelType, tunnelMediumType, tunnelPrivateGroupId]

section Returned

variable {attrType : UInt8} {value : Octets} {attr : Attribute} {returned : ReplyAttribute}

theorem new_toOption (built : (new attrType value).toOption = some attr) :
    attr.Fits ∧ attr.attrType = attrType := by
  obtain ⟨fits, rfl⟩ := new_eq_ok.mp (Results.eq_ok_of_toOption built)
  exact ⟨fits, rfl⟩

theorem parsed_toOption {text : String} {encode : UInt32 → Option Attribute}
    (typed : ∀ number, encode number = some attr → attr.Fits ∧ attr.attrType = attrType)
    (built : (parseU32 text).bind encode = some attr) : attr.Fits ∧ attr.attrType = attrType := by
  obtain ⟨number, _, encoded⟩ := Option.bind_eq_some_iff.mp built
  exact typed number encoded

theorem replyAttribute_typed (built : replyAttribute returned = some attr) :
    attr.Fits ∧ attr.attrType ∈ replyTypes := by
  have listed {attrType : UInt8} (member : attrType ∈ replyTypes) (typed : attr.Fits ∧ attr.attrType = attrType) :
      attr.Fits ∧ attr.attrType ∈ replyTypes := ⟨typed.1, typed.2 ▸ member⟩
  unfold replyAttribute at built
  split at built
  · exact listed (by decide) (new_toOption built)
  · exact listed (by decide) (new_toOption built)
  · exact listed (by decide) (new_toOption built)
  · exact listed (by decide) (parsed_toOption (fun _ => new_toOption) built)
  · exact listed (by decide) (parsed_toOption (fun _ => new_toOption) built)
  · dsimp only at built
    split at built
    · exact listed (by decide) (new_toOption built)
    · split at built
      · exact listed (by decide) (new_toOption built)
      · cases built
  · exact listed (by decide) (parsed_toOption (fun _ => new_toOption) built)
  · exact listed (by decide) (parsed_toOption (fun _ => new_toOption) built)
  · exact listed (by decide) (new_toOption built)
  · cases built

end Returned

end UsgRadius.PolicyEnforce
