namespace ValueSpec

/-- Why a template cannot be followed. -/
inductive TemplateError
  /-- A closing brace that closes nothing and is not doubled. -/
  | loneClose
  /-- An opening brace at the end of the template. -/
  | loneOpen
  /-- An opening brace inside the name of a field. -/
  | openInName
  /-- The end of the template inside a field's name. -/
  | unclosedField
  /-- The end of the template where a conversion should stand. -/
  | noConversion
  /-- Something other than a colon after a conversion. -/
  | colonExpected
  /-- The end of the template inside a format. -/
  | unclosedFormat
  /-- A field that is numbered, or not named at all. -/
  | positional
  /-- A conversion that does not exist. -/
  | unknownConversion (c : Char)
  /-- Formats nested too deep. -/
  | tooDeep
  /-- A number that is too large. -/
  | tooManyDigits
  /-- Something other than a further step after a bracketed index. -/
  | afterBracket
  /-- A step that names nothing. -/
  | emptyStep
  /-- An index without its closing bracket. -/
  | missingBracket
  /-- A text has no attributes. -/
  | noAttribute (name : String)
  /-- An index that is not a number. -/
  | namedIndex
  /-- An index beyond the end of the text. -/
  | indexOutOfRange
  /-- A format with something left over. -/
  | invalidFormat (format : String)
  /-- A point without a precision. -/
  | missingPrecision
  /-- Two separators of thousands. -/
  | twoSeparators
  /-- A separator of thousands for a kind of value that has none. -/
  | separatorFor (separator kind : Char)
  /-- A kind of format that texts do not have. -/
  | unknownKind (c : Char)
  /-- A sign for a text. -/
  | signForText
  /-- A blank in the place of a sign for a text. -/
  | spaceForText
  /-- The treatment of negative zero for a text. -/
  | zeroForText
  /-- The alternate form for a text. -/
  | alternateForText
  /-- Padding after the sign for a text. -/
  | signPaddingForText
  deriving DecidableEq, Repr

namespace TemplateError

/-- A character as it appears in a message: itself, or its code if it is not visible ASCII. -/
def shown (limit : Nat) (c : Char) : String :=
  if 32 < c.toNat && c.toNat < limit then String.singleton c
  else "\\x" ++ String.ofList (Nat.toDigits 16 c.toNat)

def message : TemplateError → String
  | loneClose => "Single '\x7d' encountered in format string"
  | loneOpen => "Single '\x7b' encountered in format string"
  | openInName => "unexpected '\x7b' in field name"
  | unclosedField => "expected '\x7d' before end of string"
  | noConversion => "end of string while looking for conversion specifier"
  | colonExpected => "expected ':' after conversion specifier"
  | unclosedFormat => "unmatched '\x7b' in format spec"
  | positional => "Format string contains positional fields"
  | unknownConversion c => "Unknown conversion specifier " ++ shown 127 c
  | tooDeep => "Max string recursion exceeded"
  | tooManyDigits => "Too many decimal digits in format string"
  | afterBracket => "Only '.' or '[' may follow ']' in format field specifier"
  | emptyStep => "Empty attribute in format string"
  | missingBracket => "Missing ']' in format string"
  | noAttribute name => "'str' object has no attribute '" ++ name ++ "'"
  | namedIndex => "string indices must be integers, not 'str'"
  | indexOutOfRange => "string index out of range"
  | invalidFormat format => "Invalid format specifier '" ++ format ++ "' for object of type 'str'"
  | missingPrecision => "Format specifier missing precision"
  | twoSeparators => "Cannot specify both ',' and '_'."
  | separatorFor separator kind =>
    "Cannot specify '" ++ String.singleton separator ++ "' with '" ++ shown 128 kind ++ "'."
  | unknownKind c => "Unknown format code '" ++ shown 128 c ++ "' for object of type 'str'"
  | signForText => "Sign not allowed in string format specifier"
  | spaceForText => "Space not allowed in string format specifier"
  | zeroForText => "Negative zero coercion (z) not allowed in string format specifier"
  | alternateForText => "Alternate form (#) not allowed in string format specifier"
  | signPaddingForText => "'=' alignment not allowed in string format specifier"

end TemplateError

end ValueSpec
