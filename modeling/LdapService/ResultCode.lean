/-!
Result codes of RFC 4511. The set is closed: a number outside it has no code,
and a failure that fits nowhere else is `other`.
-/

namespace LdapService

inductive ResultCode where
  | success
  | operationsError
  | protocolError
  | timeLimitExceeded
  | sizeLimitExceeded
  | compareFalse
  | compareTrue
  | authMethodNotSupported
  | strongerAuthRequired
  | referral
  | adminLimitExceeded
  | unavailableCriticalExtension
  | confidentialityRequired
  | saslBindInProgress
  | noSuchAttribute
  | undefinedAttributeType
  | inappropriateMatching
  | constraintViolation
  | attributeOrValueExists
  | invalidAttributeSyntax
  | noSuchObject
  | aliasProblem
  | invalidDnSyntax
  | aliasDereferencingProblem
  | inappropriateAuthentication
  | invalidCredentials
  | insufficientAccessRights
  | busy
  | unavailable
  | unwillingToPerform
  | loopDetect
  | namingViolation
  | objectClassViolation
  | notAllowedOnNonLeaf
  | notAllowedOnRdn
  | entryAlreadyExists
  | objectClassModsProhibited
  | affectsMultipleDsas
  | other
  deriving DecidableEq, Repr, Inhabited

namespace ResultCode

def all : List ResultCode := [
  .success, .operationsError, .protocolError, .timeLimitExceeded, .sizeLimitExceeded,
  .compareFalse, .compareTrue, .authMethodNotSupported, .strongerAuthRequired, .referral,
  .adminLimitExceeded, .unavailableCriticalExtension, .confidentialityRequired,
  .saslBindInProgress, .noSuchAttribute, .undefinedAttributeType, .inappropriateMatching,
  .constraintViolation, .attributeOrValueExists, .invalidAttributeSyntax, .noSuchObject,
  .aliasProblem, .invalidDnSyntax, .aliasDereferencingProblem, .inappropriateAuthentication,
  .invalidCredentials, .insufficientAccessRights, .busy, .unavailable, .unwillingToPerform,
  .loopDetect, .namingViolation, .objectClassViolation, .notAllowedOnNonLeaf, .notAllowedOnRdn,
  .entryAlreadyExists, .objectClassModsProhibited, .affectsMultipleDsas, .other]

def number : ResultCode → Nat
  | success => 0
  | operationsError => 1
  | protocolError => 2
  | timeLimitExceeded => 3
  | sizeLimitExceeded => 4
  | compareFalse => 5
  | compareTrue => 6
  | authMethodNotSupported => 7
  | strongerAuthRequired => 8
  | referral => 10
  | adminLimitExceeded => 11
  | unavailableCriticalExtension => 12
  | confidentialityRequired => 13
  | saslBindInProgress => 14
  | noSuchAttribute => 16
  | undefinedAttributeType => 17
  | inappropriateMatching => 18
  | constraintViolation => 19
  | attributeOrValueExists => 20
  | invalidAttributeSyntax => 21
  | noSuchObject => 32
  | aliasProblem => 33
  | invalidDnSyntax => 34
  | aliasDereferencingProblem => 36
  | inappropriateAuthentication => 48
  | invalidCredentials => 49
  | insufficientAccessRights => 50
  | busy => 51
  | unavailable => 52
  | unwillingToPerform => 53
  | loopDetect => 54
  | namingViolation => 64
  | objectClassViolation => 65
  | notAllowedOnNonLeaf => 66
  | notAllowedOnRdn => 67
  | entryAlreadyExists => 68
  | objectClassModsProhibited => 69
  | affectsMultipleDsas => 71
  | other => 80

def name : ResultCode → String
  | success => "success"
  | operationsError => "operationsError"
  | protocolError => "protocolError"
  | timeLimitExceeded => "timeLimitExceeded"
  | sizeLimitExceeded => "sizeLimitExceeded"
  | compareFalse => "compareFalse"
  | compareTrue => "compareTrue"
  | authMethodNotSupported => "authMethodNotSupported"
  | strongerAuthRequired => "strongerAuthRequired"
  | referral => "referral"
  | adminLimitExceeded => "adminLimitExceeded"
  | unavailableCriticalExtension => "unavailableCriticalExtension"
  | confidentialityRequired => "confidentialityRequired"
  | saslBindInProgress => "saslBindInProgress"
  | noSuchAttribute => "noSuchAttribute"
  | undefinedAttributeType => "undefinedAttributeType"
  | inappropriateMatching => "inappropriateMatching"
  | constraintViolation => "constraintViolation"
  | attributeOrValueExists => "attributeOrValueExists"
  | invalidAttributeSyntax => "invalidAttributeSyntax"
  | noSuchObject => "noSuchObject"
  | aliasProblem => "aliasProblem"
  | invalidDnSyntax => "invalidDNSyntax"
  | aliasDereferencingProblem => "aliasDereferencingProblem"
  | inappropriateAuthentication => "inappropriateAuthentication"
  | invalidCredentials => "invalidCredentials"
  | insufficientAccessRights => "insufficientAccessRights"
  | busy => "busy"
  | unavailable => "unavailable"
  | unwillingToPerform => "unwillingToPerform"
  | loopDetect => "loopDetect"
  | namingViolation => "namingViolation"
  | objectClassViolation => "objectClassViolation"
  | notAllowedOnNonLeaf => "notAllowedOnNonLeaf"
  | notAllowedOnRdn => "notAllowedOnRDN"
  | entryAlreadyExists => "entryAlreadyExists"
  | objectClassModsProhibited => "objectClassModsProhibited"
  | affectsMultipleDsas => "affectsMultipleDSAs"
  | other => "other"

def ofNumber? (number : Nat) : Option ResultCode :=
  all.find? fun code => code.number == number

def describe (code : ResultCode) : String :=
  s!"{name code} ({number code})"

end ResultCode

end LdapService
