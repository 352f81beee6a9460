import ValueSpec.Template.Error

namespace ValueSpec

/-- A fault that stops the whole computation. -/
inductive Fault
  /-- A numeral with more digits than can be read. -/
  | tooManyDigits (count : Nat)
  /-- An integer with more digits than can be written. -/
  | tooLongToWrite
  /-- An integer beyond the range of the floating-point numbers. -/
  | integerTooLarge
  /-- A repetition count of a pattern that is too large. -/
  | repeatTooLarge
  /-- A code point of a pattern that is too large even to be looked at. -/
  | codePointTooLarge
  /-- A pattern with so many groups inside each other that the stack has no room for them. -/
  | nestedTooDeep
  /-- A pattern that asks for ASCII and for Unicode classes at once. -/
  | incompatibleFlags
  /-- Surrogates from a position on in a value of which the UTF-8 form is needed. -/
  | notEncodable (position : Nat) (surrogates : List Nat)
  /-- A log level that names a text that is no level. -/
  | unknownLevel (shown : String)
  /-- A log level that names what is neither a number nor a text. -/
  | notALevel (shown : String)
  /-- A template that cannot be followed. -/
  | template (e : TemplateError)
  /-- A parameter that has the name of a part of the report it should go into. -/
  | repeatedField (maker name : String)
  /-- An exception of the given kind that a custom check let escape. -/
  | raised (kind : String) (text : String)
  deriving DecidableEq, Repr

def Fault.message : Fault → String
  | .tooManyDigits n =>
    "Exceeds the limit (4300 digits) for integer string conversion: value has " ++ toString n ++
      " digits; use sys.set_int_max_str_digits() to increase the limit"
  | .tooLongToWrite =>
    "Exceeds the limit (4300 digits) for integer string conversion; use " ++
      "sys.set_int_max_str_digits() to increase the limit"
  | .integerTooLarge => "int too large to convert to float"
  | .repeatTooLarge => "the repetition number is too large"
  | .codePointTooLarge => "Python int too large to convert to C int"
  | .nestedTooDeep => "maximum recursion depth exceeded"
  | .incompatibleFlags => "ASCII and UNICODE flags are incompatible"
  | .notEncodable position [n] =>
    "'utf-8' codec can't encode character '\\u" ++ String.ofList (Nat.toDigits 16 n) ++
      "' in position " ++ toString position ++ ": surrogates not allowed"
  | .notEncodable position surrogates =>
    "'utf-8' codec can't encode characters in position " ++ toString position ++ "-" ++
      toString (position + surrogates.length - 1) ++ ": surrogates not allowed"
  | .unknownLevel shown => "Unknown level: " ++ shown
  | .notALevel shown => "Level not an integer or a valid string: " ++ shown
  | .template e => e.message
  | .repeatedField maker name =>
    if name = "message" then maker ++ "() got multiple values for argument 'message'"
    else
      "flagspec.core.errors.builders." ++ maker ++
        "() got multiple values for keyword argument '" ++ name ++ "'"
  | .raised _ text => text

end ValueSpec
