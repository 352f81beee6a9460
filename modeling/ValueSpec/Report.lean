import ValueSpec.Rejection
import ValueSpec.SpecError

namespace ValueSpec

/-- An error as a value. -/
structure Report where
  code : Code
  message : String
  origin : String := ""
  metadata : Params := []
  /-- The error of a spec that the report was made of. -/
  cause : Option SpecError := none

/-- A result: a value, or what went wrong. -/
abbrev Result (α : Type) := Except Report α

namespace Report

def text (r : Report) : String := "[" ++ r.code.name ++ "] " ++ r.message

/-- What was given, without what is absent. -/
def present (params : Params) : Params :=
  params.filter fun e => match e.2 with
    | .absent => false
    | _ => true

def ofValidation (message : String) (code : Code) (value validator : Value) (origin : String)
    (metadata : Params) : Report :=
  { code, message, origin
    metadata := present ([("value", value), ("validator", validator)] ++ metadata) }

def ofSpec (message : String) (code : Code) (spec : Value) (origin : String)
    (cause : Option SpecError) (metadata : Params) : Report :=
  { code, message, origin, cause
    metadata := present (("spec", spec) :: metadata) }

/-- The first name in the metadata that means a part of the report itself. -/
def clash? (reserved : List String) (metadata : Params) : Option String :=
  metadata.names.find? reserved.contains

end Report

/-- The result of checking a value: the value, or a report of its rejection. -/
def Outcome.toResult (cat : Catalog) (value origin : String) :
    Outcome → Except Fault (Result String)
  | .accepted => .ok (.ok value)
  | .rejected why => do
    let message ← why.render cat
    match Report.clash? ["code", "value", "validator", "origin", "message"] why.params with
    | some name => .error (.repeatedField "validation_error" name)
    | none =>
      return .error (Report.ofValidation message why.code (.text why.value) (.text why.validator)
        origin why.params)

/-- The report of an error of a spec. It names the innermost code. -/
def SpecError.toReport (cat : Catalog) (e : SpecError) (origin : String) : Except Fault Report := do
  let message ← e.text cat
  let rest := e.params.without "spec"
  match Report.clash? ["code", "origin", "cause", "root_code", "message"] rest with
  | some name => .error (.repeatedField "spec_error" name)
  | none =>
    return Report.ofSpec message e.code ((e.params.get? "spec").getD .absent) origin (some e)
      (("root_code", .text e.root.code.name) :: rest)

/-- Collect results: every value if there is no error, and otherwise every error. -/
def collect {ε α : Type} (results : List (Except ε α)) : Except (List ε) (List α) :=
  let errors := results.filterMap fun
    | .ok _ => none
    | .error e => some e
  if errors.isEmpty then
    .ok (results.filterMap fun
      | .ok a => some a
      | .error _ => none)
  else .error errors

end ValueSpec
