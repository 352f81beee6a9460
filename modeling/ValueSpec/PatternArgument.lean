import ValueSpec.SpecError
import ValueSpec.Splitting

namespace ValueSpec

/-- A pattern and what is said of it in messages. -/
structure PatternArgument where
  pattern : String
  description : String
  deriving DecidableEq, Repr

namespace PatternArgument

/-- The characters that lose their backslash between braces. -/
def bracedEscapes : List Char := [',', ':', '\x7b', '\x7d', '"', '\'', '\\']

/-- The text up to a first occurrence of a mark and the text after it. -/
def partition? (mark : List Char) : List Char → Option (List Char × List Char)
  | [] => if mark.isEmpty then some ([], []) else none
  | c :: rest =>
    if mark.isPrefixOf (c :: rest) then some ([], (c :: rest).drop mark.length)
    else (partition? mark rest).map fun (before, after) => (c :: before, after)

/-- The texts that end with a comma that is not escaped. What follows the last of these commas is in
no text. -/
def ended : List Glyph → List (List Char)
  | [] => []
  | g :: rest =>
    if g = .plain ',' then [] :: ended rest
    else
      match ended rest with
      | [] => []
      | text :: texts => (g.decode bracedEscapes ++ text) :: texts

def pair (text : String) (segment : List Char) : Except SpecError (String × String) :=
  match partition? [':'] (Text.stripChars segment) with
  | none => .error (.malformed text .notAPair none)
  | some (key, value) =>
    let key := String.ofList (Text.stripChars key)
    if key = "" then .error (.malformed text .emptyKey none)
    else .ok (key, String.ofList (Text.stripChars value))

/-- The value of a key that must be there and must not be empty. -/
def required (text : String) (pairs : Record String) (key : String) : Except SpecError String :=
  match pairs.get? key with
  | none => .error (.malformed text (.missingValue key) none)
  | some value =>
    if value = "" then .error (.malformed text (.missingValue key) none) else .ok value

/-- Read the notation between braces. Each pair ends with a comma, the last one with a comma that
is added; of a key that comes twice the last value counts. -/
def parseBraced (text : String) : Except SpecError PatternArgument := do
  let cs := Text.stripChars text.toList
  if cs.head? ≠ some '\x7b' || cs.getLast? ≠ some '\x7d' || cs.length < 2 then
    .error (.malformed text .notBraced none)
  else
    let inner := cs.tail.dropLast
    let pairs ← (ended (Glyph.ofChars (inner ++ [',']))).mapM (pair text)
    let pairs := Record.overlay [] pairs
    let pattern ← required text pairs "pattern"
    let description ← required text pairs "desc"
    return { pattern, description }

/-- Read a pattern argument in any of its three notations. -/
def parse (arg : String) : Except SpecError PatternArgument :=
  let cs := arg.toList
  if cs.head? = some '\x7b' && cs.getLast? = some '\x7d' then parseBraced arg
  else if "pattern:".toList.isPrefixOf cs then
    let rest := cs.drop "pattern:".length
    match partition? ",desc:".toList rest with
    | some (pattern, description) =>
      .ok ⟨String.ofList pattern, String.ofList description⟩
    | none => .ok ⟨String.ofList rest, String.ofList rest⟩
  else .ok ⟨arg, arg⟩

end PatternArgument

end ValueSpec
