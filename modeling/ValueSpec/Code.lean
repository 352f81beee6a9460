namespace ValueSpec

/-- The code of a failure or an error. -/
inductive Code
  | validationGeneric
  | combinedFailed
  | patternMatch
  | valueBetween
  | valueAtLeast
  | valueAtMost
  | mustBeNumber
  | mustBeInteger
  | mustBeBoolean
  | invalidEmail
  | invalidUrl
  | urlSchemeNotAllowed
  | urlMissingHost
  | minLength
  | maxLength
  | exactLength
  | minByteLength
  | maxByteLength
  | exactByteLength
  | mustBeOneOf
  | valueCannotBe
  | mustBeAlphanumeric
  | mustBeIdentifier
  | mustNotContainWhitespace
  | fileExtension
  | hostnameTooLong
  | invalidHostname
  | invalidIp
  | customFailed
  | invalidValidator
  | requiresArgument
  | requiresAtLeastOneArgument
  | argumentMustBeInteger
  | argumentMustBeNumber
  | argumentCannotBeNegative
  | unknownValidator
  | recursionDepthExceeded
  | mustUseParentheses
  | invalidPattern
  deriving DecidableEq, Repr

namespace Code

def number : Code → Nat
  | validationGeneric => 2000
  | combinedFailed => 2001
  | patternMatch => 2002
  | valueBetween => 2003
  | valueAtLeast => 2004
  | valueAtMost => 2005
  | mustBeNumber => 2006
  | mustBeInteger => 2007
  | mustBeBoolean => 2008
  | invalidEmail => 2010
  | invalidUrl => 2011
  | urlSchemeNotAllowed => 2012
  | urlMissingHost => 2013
  | minLength => 2020
  | maxLength => 2021
  | exactLength => 2022
  | minByteLength => 2023
  | maxByteLength => 2024
  | exactByteLength => 2025
  | mustBeOneOf => 2030
  | valueCannotBe => 2031
  | mustBeAlphanumeric => 2032
  | mustBeIdentifier => 2033
  | mustNotContainWhitespace => 2034
  | fileExtension => 2035
  | hostnameTooLong => 2036
  | invalidHostname => 2037
  | invalidIp => 2038
  | customFailed => 2040
  | invalidValidator => 3000
  | requiresArgument => 3001
  | requiresAtLeastOneArgument => 3002
  | argumentMustBeInteger => 3003
  | argumentMustBeNumber => 3004
  | argumentCannotBeNegative => 3005
  | unknownValidator => 3010
  | recursionDepthExceeded => 3011
  | mustUseParentheses => 3012
  | invalidPattern => 3020

/-- The words of a code, in capitals. -/
def words : Code → String
  | validationGeneric => "VALIDATION_GENERIC"
  | combinedFailed => "COMBINED_FAILED"
  | patternMatch => "PATTERN_MATCH"
  | valueBetween => "VALUE_BETWEEN"
  | valueAtLeast => "VALUE_AT_LEAST"
  | valueAtMost => "VALUE_AT_MOST"
  | mustBeNumber => "MUST_BE_NUMBER"
  | mustBeInteger => "MUST_BE_INTEGER"
  | mustBeBoolean => "MUST_BE_BOOLEAN"
  | invalidEmail => "INVALID_EMAIL"
  | invalidUrl => "INVALID_URL"
  | urlSchemeNotAllowed => "URL_SCHEME_NOT_ALLOWED"
  | urlMissingHost => "URL_MISSING_HOST"
  | minLength => "MIN_LENGTH"
  | maxLength => "MAX_LENGTH"
  | exactLength => "EXACT_LENGTH"
  | minByteLength => "MIN_BYTE_LENGTH"
  | maxByteLength => "MAX_BYTE_LENGTH"
  | exactByteLength => "EXACT_BYTE_LENGTH"
  | mustBeOneOf => "MUST_BE_ONE_OF"
  | valueCannotBe => "VALUE_CANNOT_BE"
  | mustBeAlphanumeric => "MUST_BE_ALPHANUMERIC"
  | mustBeIdentifier => "MUST_BE_IDENTIFIER"
  | mustNotContainWhitespace => "MUST_NOT_CONTAIN_WHITESPACE"
  | fileExtension => "FILE_EXTENSION"
  | hostnameTooLong => "HOSTNAME_TOO_LONG"
  | invalidHostname => "INVALID_HOSTNAME"
  | invalidIp => "INVALID_IP"
  | customFailed => "CUSTOM_FAILED"
  | invalidValidator => "INVALID_VALIDATOR"
  | requiresArgument => "REQUIRES_ARGUMENT"
  | requiresAtLeastOneArgument => "REQUIRES_AT_LEAST_ONE_ARGUMENT"
  | argumentMustBeInteger => "ARGUMENT_MUST_BE_INTEGER"
  | argumentMustBeNumber => "ARGUMENT_MUST_BE_NUMBER"
  | argumentCannotBeNegative => "ARGUMENT_CANNOT_BE_NEGATIVE"
  | unknownValidator => "UNKNOWN_VALIDATOR"
  | recursionDepthExceeded => "RECURSION_DEPTH_EXCEEDED"
  | mustUseParentheses => "MUST_USE_PARENTHESES"
  | invalidPattern => "INVALID_PATTERN"

def all : List Code :=
  [.validationGeneric, .combinedFailed, .patternMatch, .valueBetween, .valueAtLeast,
   .valueAtMost, .mustBeNumber, .mustBeInteger, .mustBeBoolean, .invalidEmail, .invalidUrl,
   .urlSchemeNotAllowed, .urlMissingHost, .minLength, .maxLength, .exactLength, .minByteLength,
   .maxByteLength, .exactByteLength, .mustBeOneOf, .valueCannotBe, .mustBeAlphanumeric,
   .mustBeIdentifier, .mustNotContainWhitespace, .fileExtension, .hostnameTooLong,
   .invalidHostname, .invalidIp, .customFailed, .invalidValidator, .requiresArgument,
   .requiresAtLeastOneArgument, .argumentMustBeInteger, .argumentMustBeNumber,
   .argumentCannotBeNegative, .unknownValidator, .recursionDepthExceeded, .mustUseParentheses,
   .invalidPattern]

/-- The name of a code, such as `E2020_MIN_LENGTH`. -/
def name (c : Code) : String := "E" ++ toString c.number ++ "_" ++ c.words

/-- What a code is about. -/
inductive Category
  | validation
  | spec
  deriving DecidableEq, Repr

def Category.name : Category → String
  | .validation => "validation"
  | .spec => "spec"

def category (c : Code) : Category := if c.number < 3000 then .validation else .spec

/-- The key of a code, such as `validation.min_length`. -/
def key (c : Code) : String := c.category.name ++ "." ++ c.words.map Char.toLower

def ofName? (s : String) : Option Code := all.find? (·.name = s)

def ofNumber? (n : Int) : Option Code := all.find? fun c => (c.number : Int) = n

def english : Code → String
  | validationGeneric => "value '{value}' is invalid"
  | combinedFailed => "validation failed: {reasons}"
  | patternMatch => "value '{value}' must match pattern: {description}"
  | valueBetween => "value '{value}' must be between {min} and {max}"
  | valueAtLeast => "value '{value}' must be at least {min}"
  | valueAtMost => "value '{value}' must be at most {max}"
  | mustBeNumber => "value '{value}' must be a number"
  | mustBeInteger => "value '{value}' must be an integer"
  | mustBeBoolean => "value '{value}' must be a boolean (true/false)"
  | invalidEmail => "value '{value}' is not a valid email address"
  | invalidUrl => "value '{value}' is not a valid URL: {reason}"
  | urlSchemeNotAllowed => "URL scheme must be one of: {schemes}"
  | urlMissingHost => "URL '{value}' must have a host"
  | minLength => "value '{value}' must be at least {min} characters long"
  | maxLength => "value '{value}' must be at most {max} characters long"
  | exactLength => "value '{value}' must be exactly {length} characters long"
  | minByteLength => "value '{value}' must be at least {min} bytes long"
  | maxByteLength => "value '{value}' must be at most {max} bytes long"
  | exactByteLength => "value '{value}' must be exactly {length} bytes long"
  | mustBeOneOf => "value '{value}' must be one of: {allowed}"
  | valueCannotBe => "value '{value}' is not allowed"
  | mustBeAlphanumeric => "value '{value}' must contain only letters and numbers"
  | mustBeIdentifier => "value '{value}' must be a valid identifier"
  | mustNotContainWhitespace => "value '{value}' must not contain whitespace"
  | fileExtension => "file must have one of the extensions: {extensions}"
  | hostnameTooLong => "hostname must be at most 253 characters"
  | invalidHostname => "value '{value}' is not a valid hostname"
  | invalidIp => "value '{value}' must be a valid IP address"
  | customFailed => "{name}: {reason}"
  | invalidValidator => "invalid validator '{spec}': {reason}"
  | requiresArgument => "validator '{validator}' requires {expected} argument(s)"
  | requiresAtLeastOneArgument => "validator '{validator}' requires at least one argument"
  | argumentMustBeInteger => "argument of validator '{validator}' must be an integer"
  | argumentMustBeNumber => "argument of validator '{validator}' must be a number"
  | argumentCannotBeNegative => "argument of validator '{validator}' cannot be negative"
  | unknownValidator => "unknown validator '{name}'"
  | recursionDepthExceeded => "validator nesting exceeds the maximum depth of {max_depth}"
  | mustUseParentheses =>
    "validator '{spec}' must use parentheses for arguments, e.g. name(arg1,arg2)"
  | invalidPattern => "invalid regex pattern '{pattern}': {reason}"

theorem mem_all (c : Code) : c ∈ all := by cases c <;> decide

end Code

end ValueSpec
