import ValueSpec.SpecError
import ValueSpec.Splitting

/-!
# Calls

A spec names a validator and may give it arguments between parentheses. The first parenthesis that
is not escaped opens the arguments, and the spec must end with one. How the text of the arguments
becomes arguments depends on the validator. Arguments after a colon are an old notation that is
refused.
-/

namespace ValueSpec

/-- How the text between the parentheses becomes arguments. -/
inductive ArgShape
  /-- Specs, separated by commas. -/
  | nested
  /-- One spec. -/
  | nestedOne
  /-- The whole text, as it is. -/
  | single
  /-- Values, separated by commas. -/
  | list
  deriving DecidableEq, Repr

def ArgShape.name : ArgShape → String
  | nested => "nested"
  | nestedOne => "nested_one"
  | single => "single"
  | list => "list"

/-- The arguments in the text between the parentheses. -/
def ArgShape.split (shape : ArgShape) (raw : String) : List String :=
  match shape with
  | nested => splitArguments raw
  | list => (splitArguments raw).map unescapeValue
  | nestedOne => if Text.strip raw = "" then [] else [Text.strip raw]
  | single => if raw = "" then [] else [raw]

/-- A spec, taken apart. -/
structure Call where
  name : String
  rawArgs : String := ""
  args : List String := []
  deriving DecidableEq, Repr

namespace Call

/-- Take a spec apart; `shapeOf` gives the shape of a validator's arguments. -/
def parse (shapeOf : String → ArgShape) (text : String) : Except SpecError Call :=
  let spec := Text.strip text
  match findUnescaped? spec '(' with
  | none =>
    if (findUnescaped? spec ':').isSome then .error (.colonSyntax spec)
    else if spec = "" then .error (.malformed spec .missingName none)
    else .ok { name := spec }
  | some i =>
    let cs := spec.toList
    let name := String.ofList (Text.stripChars (cs.take i))
    if name = "" then .error (.malformed spec .missingName none)
    else if cs.getLast? ≠ some ')' then .error (.malformed spec .missingClose none)
    else
      let raw := String.ofList (cs.drop (i + 1)).dropLast
      .ok { name, rawArgs := raw, args := (shapeOf name).split raw }

end Call

end ValueSpec
