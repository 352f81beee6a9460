import ValueSpec.Check
import ValueSpec.Net.Email
import ValueSpec.Net.Hostname
import ValueSpec.Net.Url
import ValueSpec.Number.Bound
import ValueSpec.Pattern
import ValueSpec.Rejection
import ValueSpec.Text.CodePoint

namespace ValueSpec

/-- The units in which lengths are measured. -/
inductive LengthUnit
  | characters
  /-- The bytes of the UTF-8 form. -/
  | bytes
  deriving DecidableEq, Repr

/-- A validator of one property. -/
inductive Leaf
  | length (unit : LengthUnit) (least most : Option Int)
  | range (least most : Option Bound)
  | intRange (least most : Int)
  | integer
  | number
  | boolean
  | email
  | url (schemes : List String)
  | alphanumeric
  | identifier
  | noWhitespace
  | fileExtension (extensions : List String)
  | hostname
  | ip
  | oneOf (allowed : List String)
  | equals (expected : String)
  | contains (part : String)
  | hasPrefix (start : String)
  | hasSuffix (ending : String)
  | pattern (p : Pattern)
  | custom (label : String) (check : Option Check)

/-! ### Lengths -/

namespace LengthUnit

def size : LengthUnit → String → Nat
  | characters, s => s.length
  | bytes, s => s.utf8ByteSize

def measure : LengthUnit → List CodePoint → Except Fault Nat
  | characters, ps => .ok ps.length
  | bytes, ps => CodePoint.utf8Length ps

@[simp] theorem measure_ofString (unit : LengthUnit) (s : String) :
    unit.measure (CodePoint.ofString s) = .ok (unit.size s) := by
  cases unit <;> simp [measure, size]

/-- What the names of lengths begin with. -/
def namePrefix : LengthUnit → String
  | characters => ""
  | bytes => "byte-"

def plural : LengthUnit → String
  | characters => "characters"
  | bytes => "bytes"

def tooShort : LengthUnit → Code
  | characters => .minLength
  | bytes => .minByteLength

def tooLong : LengthUnit → Code
  | characters => .maxLength
  | bytes => .maxByteLength

/-- The code for a value that does not have the one length that is allowed. -/
def notExact : LengthUnit → Code
  | characters => .exactLength
  | bytes => .exactByteLength

end LengthUnit

namespace Leaf

def lengthName (unit : LengthUnit) (least most : Option Int) : String :=
  let kind := unit.namePrefix ++ "length"
  let part (word : String) (n : Int) : String := word ++ kind ++ "[" ++ Integer.numeral n ++ "]"
  match least, most with
  | some lo, some hi => if lo = hi then part "" lo else part "min-" lo ++ "," ++ part "max-" hi
  | some lo, none => part "min-" lo
  | none, some hi => part "max-" hi
  | none, none => kind

def lengthDescription (unit : LengthUnit) (least most : Option Int) : String :=
  match least, most with
  | some lo, some hi =>
    if lo = hi then "Exactly " ++ Integer.numeral lo ++ " " ++ unit.plural
    else "Between " ++ Integer.numeral lo ++ " and " ++ Integer.numeral hi ++ " " ++ unit.plural
  | some lo, none => "Minimum length " ++ Integer.numeral lo ++ " " ++ unit.plural
  | none, some hi => "Maximum length " ++ Integer.numeral hi ++ " " ++ unit.plural
  | none, none => "Any length"

/-! ### Names -/

def named (word parameter : String) : String := word ++ "[" ++ parameter ++ "]"

def commas (ss : List String) : String := ",".intercalate ss

def listed (ss : List String) : String := ", ".intercalate ss

def name : Leaf → String
  | length unit lo hi => lengthName unit lo hi
  | range (some lo) (some hi) => named "range" (commas [lo.text, hi.text])
  | range (some lo) none => named "min" lo.text
  | range none (some hi) => named "max" hi.text
  | range none none => "number"
  | intRange lo hi => named "int-range" (commas [Integer.numeral lo, Integer.numeral hi])
  | integer => "integer"
  | number => "float"
  | boolean => "boolean"
  | email => "email"
  | url schemes => if schemes.isEmpty then "url" else named "url" (commas schemes)
  | alphanumeric => "alphanumeric"
  | identifier => "identifier"
  | noWhitespace => "no-whitespace"
  | fileExtension extensions => named "file-ext" (commas extensions)
  | hostname => "hostname"
  | ip => "ip"
  | oneOf allowed => named "is-one-of" (commas allowed)
  | equals expected => named "equals" expected
  | contains part => named "contains" part
  | hasPrefix start => named "has-prefix" start
  | hasSuffix ending => named "has-suffix" ending
  | pattern p => named "regex" p.source
  | custom label (some _) => label
  | custom label none => label ++ "-noop"

/-- The integers in the name of a leaf. -/
def integers : Leaf → List Int
  | length _ lo hi => lo.toList ++ hi.toList
  | range lo hi => (lo.toList ++ hi.toList).flatMap Bound.integers
  | intRange lo hi => [lo, hi]
  | _ => []

/-- Can the name of a leaf be written? -/
def isNameable (l : Leaf) : Bool := l.integers.all Integer.isShort

def kind : Leaf → String
  | length .characters _ _ => "length"
  | length .bytes _ _ => "byte-length"
  | range _ _ | intRange _ _ => "range"
  | integer | number | boolean => "type"
  | email | url _ | alphanumeric | identifier | noWhitespace | fileExtension _ | hostname | ip =>
    "format"
  | oneOf _ => "choice"
  | equals _ => "match"
  | contains _ => "substring"
  | hasPrefix _ => "prefix"
  | hasSuffix _ => "suffix"
  | pattern _ => "pattern"
  | custom _ _ => "custom"

def description : Leaf → String
  | length unit lo hi => lengthDescription unit lo hi
  | range (some lo) (some hi) => "Number between " ++ lo.text ++ " and " ++ hi.text
  | range (some lo) none => "Minimum value " ++ lo.text
  | range none (some hi) => "Maximum value " ++ hi.text
  | range none none => "Valid floating-point number"
  | intRange lo hi => "Integer between " ++ Integer.numeral lo ++ " and " ++ Integer.numeral hi
  | integer => "Valid integer"
  | number => "Valid floating-point number"
  | boolean => "Valid boolean (true/false)"
  | email => "Valid email address"
  | url schemes =>
    if schemes.isEmpty then "Valid URL" else "Valid URL with schemes: " ++ listed schemes
  | alphanumeric => "Letters and numbers only"
  | identifier => "Valid identifier (starts with letter, contains letters/numbers/underscore)"
  | noWhitespace => "No whitespace allowed"
  | fileExtension extensions => "File extension must be one of: " ++ listed extensions
  | hostname => "Valid hostname (RFC 1123)"
  | ip => "Valid IP address (v4 or v6)"
  | oneOf allowed => "One of: " ++ listed allowed
  | equals expected => "Exactly: " ++ expected
  | contains part => "Contains: " ++ part
  | hasPrefix start => "Starts with: " ++ start
  | hasSuffix ending => "Ends with: " ++ ending
  | pattern p => p.shownAs
  | custom _ (some _) => "Custom validation"
  | custom _ none => "No-op validator"

/-! ### Checks -/

def readBoolean? (s : String) : Option Bool :=
  if ["1", "t", "T", "TRUE", "true", "True"].contains s then some true
  else if ["0", "f", "F", "FALSE", "false", "False"].contains s then some false
  else none

/-- Is a text made of letters, marks and digits, with at least one of them? -/
def isAlphanumericText (cs : List Char) : Bool := !cs.isEmpty && cs.all Text.isWordChar

/-- Is a text a letter and then letters, marks, digits and underscores? -/
def isIdentifier : List Char → Bool
  | [] => false
  | c :: rest => Text.isLetter c && rest.all fun c => c = '_' || Text.isWordChar c

/-- An extension with a point in front, in lower case. -/
def normalExtension (ext : String) : List Char :=
  let cs := ext.toList
  Text.lowerChars (if cs.head? = some '.' then cs else '.' :: cs)

def occurs (part : List Char) : List Char → Bool
  | [] => part.isEmpty
  | c :: rest => part.isPrefixOf (c :: rest) || occurs part rest

/-- A complaint about a value: a code and the parameters that were violated. -/
abbrev Complaint := Code × Params

/-- A complaint unless a condition holds. -/
def require (accepted : Bool) (code : Code) (params : Params) : Option Complaint :=
  if accepted then none else some (code, params)

def lengthComplaint? (unit : LengthUnit) (least most : Option Int) (n : Int) : Option Complaint :=
  let atMost : Option Complaint :=
    match most with
    | some hi => require (n ≤ hi) unit.tooLong [("max", .int hi)]
    | none => none
  match least with
  | none => atMost
  | some lo =>
    if most = some lo then require (n = lo) unit.notExact [("length", .int lo)]
    else if n < lo then some (unit.tooShort, [("min", .int lo)])
    else atMost

def rangeComplaint? (least most : Option Bound) (x : Binary64) : Option Complaint :=
  match least, most with
  | some lo, some hi =>
    require (lo.atMost x && hi.atLeast x) .valueBetween [("min", lo.value), ("max", hi.value)]
  | some lo, none => require (lo.atMost x) .valueAtLeast [("min", lo.value)]
  | none, some hi => require (hi.atLeast x) .valueAtMost [("max", hi.value)]
  | none, none => none

def urlComplaint? (schemes : List String) (value : String) : Option Complaint :=
  match Net.Url.read value with
  | .error e => some (.invalidUrl, [("reason", .text e.message)])
  | .ok u =>
    if !schemes.isEmpty && !u.hasScheme schemes then
      some (.urlSchemeNotAllowed, [("schemes", .texts schemes)])
    else require (!u.host.isEmpty) .urlMissingHost []

def customComplaint? (label : String) : Reply → Except Fault (Option Complaint)
  | .returned v =>
    .ok (require (!v.isFalse) .customFailed [("name", .text label), ("reason", .text "rejected")])
  | .raised .unsuitable text | .raised .wrongType text =>
    .ok (some (.customFailed, [("name", .text label), ("reason", .text text)]))
  | .raised (.other kind) text => .error (.raised kind text)

/-- The complaint about a value; `none` if it is accepted. -/
def complaint? (value : String) : Leaf → Except Fault (Option Complaint)
  | length unit lo hi => do
    return lengthComplaint? unit lo hi (← unit.measure (CodePoint.ofString value))
  | range lo hi =>
    .ok (match Binary64.read? value with
      | none => some (.mustBeNumber, [])
      | some x => rangeComplaint? lo hi x)
  | intRange lo hi => do
    match ← Integer.read value with
    | none => return some (.mustBeInteger, [])
    | some n =>
      return require (lo ≤ n && n ≤ hi) .valueBetween [("min", .int lo), ("max", .int hi)]
  | integer => do return require (← Integer.read value).isSome .mustBeInteger []
  | number => .ok (require (Binary64.read? value).isSome .mustBeNumber [])
  | boolean => .ok (require (readBoolean? value).isSome .mustBeBoolean [])
  | email => .ok (require (Net.isEmail value.toList) .invalidEmail [])
  | url schemes => .ok (urlComplaint? schemes value)
  | alphanumeric => .ok (require (isAlphanumericText value.toList) .mustBeAlphanumeric [])
  | identifier => .ok (require (isIdentifier value.toList) .mustBeIdentifier [])
  | noWhitespace =>
    .ok (require (value.toList.all (!Text.isBlank ·)) .mustNotContainWhitespace [])
  | fileExtension extensions =>
    let ends := extensions.any fun e =>
      (normalExtension e).isSuffixOf (Text.lowerChars value.toList)
    .ok (require ends .fileExtension [("extensions", .texts extensions)])
  | hostname =>
    .ok (if Net.maxHostname < value.length then
        some (.hostnameTooLong, [("max", .int Net.maxHostname)])
      else require (Net.isHostname value.toList) .invalidHostname [])
  | ip => .ok (require (Net.addressVersion? value.toList).isSome .invalidIp [])
  | oneOf allowed =>
    .ok (require (allowed.contains value) .mustBeOneOf [("allowed", .texts allowed)])
  | equals expected =>
    .ok (require (value = expected) .mustBeOneOf [("allowed", .texts [expected])])
  | contains part =>
    .ok (require (occurs part.toList value.toList) .patternMatch
      [("description", .text ("must contain '" ++ part ++ "'"))])
  | hasPrefix start =>
    .ok (require (start.toList.isPrefixOf value.toList) .patternMatch
      [("description", .text ("must start with '" ++ start ++ "'"))])
  | hasSuffix ending =>
    .ok (require (ending.toList.isSuffixOf value.toList) .patternMatch
      [("description", .text ("must end with '" ++ ending ++ "'"))])
  | pattern p =>
    .ok (require (p.matchesIn value) .patternMatch
      [("description", .text p.shownAs), ("pattern", .text p.source)])
  | custom _ none => .ok none
  | custom label (some check) => customComplaint? label (check.run value)

theorem complaint?_length (value : String) (unit : LengthUnit) (lo hi : Option Int) :
    (length unit lo hi).complaint? value = .ok (lengthComplaint? unit lo hi (unit.size value)) := by
  rw [complaint?, LengthUnit.measure_ofString]
  rfl

/-- The labels of the custom functions that a leaf calls. -/
def calls : Leaf → List String
  | custom label (some _) => [label]
  | _ => []

/-- The outcome of a leaf on a value. A rejection has the name of the leaf, which must be written
for it. -/
def outcome (value : String) (l : Leaf) : Except Fault Outcome := do
  match ← l.complaint? value with
  | none => return .accepted
  | some (code, params) =>
    let validator ← Integer.writing l.integers l.name
    return .rejected { code, value, params, validator }

/-! ### Equality -/

/-- Are two bounds that may be missing the same? -/
def sameBound : Option Bound → Option Bound → Bool
  | none, none => true
  | some b, some c => b.same c
  | _, _ => false

/-- Are two checks that may be missing the same? -/
def sameCheck : Option Check → Option Check → Bool
  | none, none => true
  | some c, some d => c.id = d.id
  | _, _ => false

/-- Are two leaves of the same kind and with the same parameters? -/
def same : Leaf → Leaf → Bool
  | length u lo hi, length u' lo' hi' => u = u' && lo = lo' && hi = hi'
  | range lo hi, range lo' hi' => sameBound lo lo' && sameBound hi hi'
  | intRange lo hi, intRange lo' hi' => lo = lo' && hi = hi'
  | integer, integer => true
  | number, number => true
  | boolean, boolean => true
  | email, email => true
  | url ss, url ss' => ss = ss'
  | alphanumeric, alphanumeric => true
  | identifier, identifier => true
  | noWhitespace, noWhitespace => true
  | fileExtension es, fileExtension es' => es = es'
  | hostname, hostname => true
  | ip, ip => true
  | oneOf as, oneOf as' => as = as'
  | equals s, equals s' => s = s'
  | contains s, contains s' => s = s'
  | hasPrefix s, hasPrefix s' => s = s'
  | hasSuffix s, hasSuffix s' => s = s'
  | pattern p, pattern p' => p.source = p'.source && p.description = p'.description
  | custom l c, custom l' c' => l = l' && sameCheck c c'
  | _, _ => false

end Leaf

end ValueSpec
