import ValueSpec.Catalog

namespace ValueSpec

/-- What is wrong with a text that should be a spec or a part of one. -/
inductive Malformation
  | missingName
  | missingClose
  | notBraced
  | notAPair
  | emptyKey
  | missingValue (key : String)
  /-- The message of the error that is wrapped. -/
  | wrapped (message : String)
  deriving DecidableEq, Repr

def Malformation.reason : Malformation → String
  | missingName => "missing validator name"
  | missingClose => "missing closing parenthesis"
  | notBraced => "pattern value must be enclosed in braces"
  | notAPair => "expected key:value pairs"
  | emptyKey => "empty key"
  | missingValue key => "missing value for '" ++ key ++ "'"
  | wrapped message => message

/-- Why a spec cannot be made into a validator. -/
inductive SpecError
  | malformed (spec : String) (what : Malformation) (cause : Option SpecError)
  | requiresArguments (validator : String) (expected : Int)
  | requiresAnArgument (validator : String)
  | notAnInteger (validator : String)
  | notANumber (validator : String)
  | negative (validator : String)
  | unknown (name : String)
  | tooDeep (depth : Int)
  | colonSyntax (spec : String)
  | badPattern (pattern reason : String)
  /-- An error given by its code and parameters. -/
  | general (code : Code) (params : Params) (cause : Option SpecError)

namespace SpecError

def code : SpecError → Code
  | malformed .. => .invalidValidator
  | requiresArguments .. => .requiresArgument
  | requiresAnArgument .. => .requiresAtLeastOneArgument
  | notAnInteger .. => .argumentMustBeInteger
  | notANumber .. => .argumentMustBeNumber
  | negative .. => .argumentCannotBeNegative
  | unknown .. => .unknownValidator
  | tooDeep .. => .recursionDepthExceeded
  | colonSyntax .. => .mustUseParentheses
  | badPattern .. => .invalidPattern
  | general c _ _ => c

def params : SpecError → Params
  | malformed spec what _ => [("spec", .text spec), ("reason", .text what.reason)]
  | requiresArguments v n => [("validator", .text v), ("expected", .int n)]
  | requiresAnArgument v => [("validator", .text v)]
  | notAnInteger v => [("validator", .text v)]
  | notANumber v => [("validator", .text v)]
  | negative v => [("validator", .text v)]
  | unknown name => [("name", .text name)]
  | tooDeep n => [("max_depth", .int n)]
  | colonSyntax spec => [("spec", .text spec)]
  | badPattern p reason => [("pattern", .text p), ("reason", .text reason)]
  | general _ params _ => params

/-- An error and the errors that it wraps, outermost first. -/
def chain : SpecError → List SpecError
  | malformed spec what (some e) => malformed spec what (some e) :: e.chain
  | general c ps (some e) => general c ps (some e) :: e.chain
  | e => [e]

def root : SpecError → SpecError
  | malformed _ _ (some e) => e.root
  | general _ _ (some e) => e.root
  | e => e

/-- Does an error or one that it wraps have the code? -/
def hasCode (e : SpecError) (c : Code) : Bool := e.chain.any (·.code = c)

def isRoot : SpecError → Bool
  | malformed _ _ (some _) => false
  | general _ _ (some _) => false
  | _ => true

def text (cat : Catalog) (e : SpecError) : Except Fault String :=
  cat.format e.code e.params

@[simp] theorem root_of_isRoot {e : SpecError} (h : e.isRoot) : e.root = e := by
  unfold isRoot at h
  split at h <;> simp_all [root]

end SpecError

end ValueSpec
