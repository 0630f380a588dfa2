import UsgRadius.Packet.Auth
import Mathlib.Data.List.Infix

namespace UsgRadius

open Data

structure Texts where
  /-- `str::to_lowercase`. -/
  toLowercase : String → String
  /-- Whether a pattern compiles and matches, ignoring case. -/
  regexMatches : (pattern text : String) → Bool
  /-- Whether both parse, as an address and as a network, and the network contains the address. -/
  inNetwork : (address network : String) → Bool
  /-- `String::from_utf8_lossy`. -/
  fromUtf8Lossy : Octets → String
  displayIpv6 : Block 16 → String

/-- `u8::to_ascii_lowercase`. -/
def asciiLowercase (octet : UInt8) : UInt8 :=
  if 65 ≤ octet && octet ≤ 90 then octet + 32 else octet

/-- `str::to_ascii_lowercase`, in octets. -/
def asciiLowercaseOf (text : String) : Octets :=
  (utf8 text).map asciiLowercase

def eqIgnoreAsciiCase (left right : String) : Bool :=
  asciiLowercaseOf left = asciiLowercaseOf right

namespace Policy

structure ReplyAttribute where
  name : String
  value : String
deriving DecidableEq

/-- The terminal effect of an authorization profile. -/
inductive Effect where
  | accept
  | reject
deriving DecidableEq

structure AuthzProfile where
  id : String
  name : String
  effect : Effect
  attributes : List ReplyAttribute
  replyMessage : Option String
deriving DecidableEq

inductive Operator where
  | equals
  | notEquals
  | contains
  | startsWith
  | endsWith
  | matchesRegex
  | inCidr
deriving DecidableEq

def Operator.apply (texts : Texts) (operator : Operator) (actual expected : String) : Bool :=
  let a := texts.toLowercase actual
  let e := texts.toLowercase expected
  match operator with
  | .equals => a = e
  | .notEquals => a ≠ e
  | .contains => decide (utf8 e <:+: utf8 a)
  | .startsWith => decide (utf8 e <+: utf8 a)
  | .endsWith => decide (utf8 e <:+ utf8 a)
  | .matchesRegex => texts.regexMatches expected actual
  | .inCidr => texts.inNetwork actual expected

structure RequestContext where
  attributes : List (String × String)
deriving DecidableEq

def RequestContext.get (context : RequestContext) (key : String) : Option String :=
  (context.attributes.find? fun entry => eqIgnoreAsciiCase entry.1 key).map Prod.snd

inductive Condition where
  | all (conditions : List Condition)
  | any (conditions : List Condition)
  | not (condition : Condition)
  | attr (name : String) (operator : Operator) (value : String)
  | always

mutual

def Condition.matches (texts : Texts) (context : RequestContext) : Condition → Bool
  | .all conditions => matchesAll texts context conditions
  | .any conditions => matchesAny texts context conditions
  | .not condition => !condition.matches texts context
  | .always => true
  | .attr name operator value =>
    match context.get name with
    | some actual => operator.apply texts actual value
    -- A missing attribute differs from every value.
    | none => operator = .notEquals

def matchesAll (texts : Texts) (context : RequestContext) : List Condition → Bool
  | [] => true
  | condition :: rest => condition.matches texts context && matchesAll texts context rest

def matchesAny (texts : Texts) (context : RequestContext) : List Condition → Bool
  | [] => false
  | condition :: rest => condition.matches texts context || matchesAny texts context rest

end

structure Rule where
  id : String
  name : String
  enabled : Bool
  condition : Condition
  profile : String

structure PolicySet where
  id : String
  name : String
  enabled : Bool
  condition : Condition
  rules : List Rule

structure PolicyConfig where
  policySets : List PolicySet
  authzProfiles : List AuthzProfile
  defaultProfile : Option String

structure Decision where
  effect : Effect
  policySet : Option String
  rule : Option String
  profile : Option String
  attributes : List ReplyAttribute
  replyMessage : Option String
  reason : String
deriving DecidableEq

def Decision.reject (reason : String) : Decision where
  effect := .reject
  policySet := none
  rule := none
  profile := none
  attributes := []
  replyMessage := none
  reason

namespace PolicyConfig

def profile (config : PolicyConfig) (id : String) : Option AuthzProfile :=
  config.authzProfiles.find? (·.id = id)

def decisionFrom (config : PolicyConfig) (profileId : String) (set rule : Option String) : Decision :=
  match config.profile profileId with
  | some profile =>
    { effect := profile.effect
      policySet := set
      rule
      profile := some profile.id
      attributes := profile.attributes
      replyMessage := profile.replyMessage
      reason :=
        match set, rule with
        | some set, some rule => s!"set '{set}' rule '{rule}' -> profile '{profile.name}'"
        | _, _ => s!"default profile '{profile.name}'" }
  | none => .reject s!"profile '{profileId}' not found"

def byDefault (config : PolicyConfig) (reason : String) : Decision :=
  match config.defaultProfile with
  | some id => config.decisionFrom id none none
  | none => .reject reason

def evaluate (texts : Texts) (config : PolicyConfig) (context : RequestContext) : Decision :=
  match config.policySets.find? fun set => set.enabled && set.condition.matches texts context with
  | some set =>
    match set.rules.find? fun rule => rule.enabled && rule.condition.matches texts context with
    | some rule => config.decisionFrom rule.profile (some set.name) (some rule.name)
    | none => config.byDefault s!"set '{set.name}' matched no rule"
  | none => config.byDefault "no policy set matched"

end PolicyConfig

end Policy

end UsgRadius
