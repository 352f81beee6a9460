import ValueSpec.Suite

namespace ValueSpec

/-- A mark on a field, with the validators of its specs. -/
structure Field where
  spec : String
  validators : List Validator

namespace Field

def make (cat : Catalog) (spec : String) : Suite.Reading Field := do
  return { spec, validators := ← Suite.parseList cat spec }

def shown (f : Field) : String := "ValidatedBy(" ++ Text.quote f.spec ++ ")"

/-- The schema of the field, given that of its type: it tells the validators besides. -/
def schema (f : Field) (ofType : Record Json) : Record Json :=
  ofType.set "x-validators" (.array ((Validator.namesOf f.validators).map .text))

/-- The value if it is taken, or the message for which it is refused. What is no text is taken
unchecked. -/
def check (cat : Catalog) (f : Field) : Value → Except Fault (Except String Value)
  | .text s => do
    match ← (checkAll s f.validators).result with
    | .accepted => return .ok (.text s)
    | .rejected why => return .error (← why.render cat)
  | v => return .ok v

end Field

end ValueSpec
