import ValueSpec.Arity
import ValueSpec.Call
import ValueSpec.PatternArgument
import ValueSpec.Validator

/-!
# The registry of validators

Every validator that a spec can name has an entry: its name, other names for it, and its form. The
form says what arguments it takes and what it makes of them. Names are looked up whatever their
letter case. A validator of validators makes them of its arguments, one level deeper; the number
of levels is limited, which is checked before the text of a spec is looked at.
-/

namespace ValueSpec

/-- What a validator takes and what it makes of it. Makers are given the name of the validator for
their errors. -/
inductive Form
  /-- No arguments. -/
  | fixed (v : Validator)
  /-- One value. -/
  | one (make : String → String → Build Validator)
  /-- Two values. -/
  | two (make : String → String → String → Build Validator)
  /-- At least one value. -/
  | some (make : List String → Validator)
  /-- Any number of values. -/
  | many (make : List String → Validator)
  /-- The whole text between the parentheses. -/
  | whole (make : String → Build Validator)
  /-- At least one spec. -/
  | specs (make : List Validator → Validator)
  /-- One spec. -/
  | spec (make : Validator → Validator)

namespace Form

def arity : Form → Arity
  | fixed _ => ⟨0, Option.some 0⟩
  | one _ | whole _ | spec _ => ⟨1, Option.some 1⟩
  | two _ => ⟨2, Option.some 2⟩
  | some _ | specs _ => ⟨1, none⟩
  | many _ => ⟨0, none⟩

/-- How the text of the arguments is taken apart. -/
def shape : Form → ArgShape
  | whole _ => .single
  | specs _ => .nested
  | spec _ => .nestedOne
  | _ => .list

end Form

structure Entry where
  name : String
  aliases : List String := []
  form : Form

namespace Entry

def names (e : Entry) : List String := e.name :: e.aliases

/-- Make a validator of arguments; `nested` makes one of an argument that is a spec. -/
def make (e : Entry) (nested : String → Build Validator) (args : List String) : Build Validator :=
  match e.form, args with
  | .fixed v, [] => return v
  | .one f, [a] => f e.name a
  | .two f, [a, b] => f e.name a b
  | .some f, a :: rest => return f (a :: rest)
  | .many f, args => return f args
  | .whole f, [a] => f a
  | .specs f, a :: rest => return f (← (a :: rest).mapM nested)
  | .spec f, [a] => return f (← nested a)
  | form, _ => .refuse (form.arity.error e.name)

end Entry

namespace Registry

/-! ### Arguments -/

def integer (name arg : String) : Build Int :=
  match Integer.read arg with
  | .error f => .error (.fault f)
  | .ok (some n) => .ok n
  | .ok none => .refuse (.notAnInteger name)

def length (name arg : String) : Build Int := do
  let n ← integer name arg
  if n < 0 then .refuse (.negative name) else return n

def number (name arg : String) : Build Bound :=
  match Binary64.read? arg with
  | some x => .ok (.real x)
  | none => .refuse (.notANumber name)

def pattern (arg : String) : Build Validator := do
  let p ← Build.ofSpec (PatternArgument.parse arg)
  return .leaf (.pattern (← Pattern.make p.pattern p.description))

/-! ### Entries -/

/-- The form of a validator of lengths with the bounds that `bounds` makes of one length. -/
def lengthForm (unit : LengthUnit) (bounds : Int → Option Int × Option Int) : Form :=
  .one fun name arg => do
    let (lo, hi) := bounds (← length name arg)
    return .leaf (.length unit lo hi)

def port : Leaf := .intRange 1 65535

def entries : List Entry :=
  [{ name := "email", form := .fixed (.leaf .email) },
   { name := "url", form := .many fun schemes => .leaf (.url schemes) },
   { name := "minlength", aliases := ["minlen"]
     form := lengthForm .characters fun n => (some n, none) },
   { name := "maxlength", aliases := ["maxlen"]
     form := lengthForm .characters fun n => (none, some n) },
   { name := "length", aliases := ["len"]
     form := lengthForm .characters fun n => (some n, some n) },
   { name := "minbytelength", aliases := ["minbytelen"]
     form := lengthForm .bytes fun n => (some n, none) },
   { name := "maxbytelength", aliases := ["maxbytelen"]
     form := lengthForm .bytes fun n => (none, some n) },
   { name := "bytelength", aliases := ["bytelen"]
     form := lengthForm .bytes fun n => (some n, some n) },
   { name := "range"
     form := .two fun _ a b =>
       return .leaf (.range (some (← number "range min" a)) (some (← number "range max" b))) },
   { name := "intrange"
     form := .two fun name a b => return .leaf (.intRange (← integer name a) (← integer name b)) },
   { name := "min"
     form := .one fun name a => return .leaf (.range (some (← number name a)) none) },
   { name := "max"
     form := .one fun name a => return .leaf (.range none (some (← number name a))) },
   { name := "regex", form := .whole pattern },
   { name := "mustmatch", form := .whole pattern },
   { name := "mustnotmatch", form := .whole fun arg => return .not (← pattern arg) },
   { name := "isoneof", form := .some fun values => .leaf (.oneOf values) },
   { name := "isnotoneof", form := .some fun values => .not (.leaf (.oneOf values)) },
   { name := "integer", aliases := ["int"], form := .fixed (.leaf .integer) },
   { name := "float", aliases := ["number"], form := .fixed (.leaf .number) },
   { name := "boolean", aliases := ["bool"], form := .fixed (.leaf .boolean) },
   { name := "alphanumeric", aliases := ["alnum"], form := .fixed (.leaf .alphanumeric) },
   { name := "identifier", aliases := ["id"], form := .fixed (.leaf .identifier) },
   { name := "nowhitespace", aliases := ["nospace"], form := .fixed (.leaf .noWhitespace) },
   { name := "fileext", aliases := ["extension"]
     form := .some fun extensions => .leaf (.fileExtension extensions) },
   { name := "hostname", aliases := ["host"], form := .fixed (.leaf .hostname) },
   { name := "ip", aliases := ["ipaddress"], form := .fixed (.leaf .ip) },
   { name := "port", form := .fixed (.leaf port) },
   { name := "oneof", form := .specs .any },
   { name := "all", form := .specs .all },
   { name := "not", form := .spec .not }]

/-! ### Looking up and building -/

/-- The entry of a name. Blanks around it and letter case do not count. -/
def lookup? (name : String) : Option Entry :=
  let key := Text.fold (Text.strip name)
  entries.find? fun e => e.names.any fun n => Text.fold n = key

/-- How the arguments of a validator are taken apart; an unknown one takes values. -/
def shapeFor (name : String) : ArgShape := ((lookup? name).map (·.form.shape)).getD .list

/-- The deepest level on which a spec may stand; the first level is zero. -/
def maxDepth : Int := 10

/-- How many levels there are from a depth on. -/
def levels (depth : Int) : Nat := (maxDepth + 1 - depth).toNat

/-- Make a validator by its name; `nested` makes one of an argument that is a spec. -/
def resolveWith (nested : String → Build Validator) (name : String) (args : List String) :
    Build Validator :=
  match lookup? name with
  | none => .refuse (.unknown name)
  | some e => e.make nested args

/-- Make a validator of a spec, with a number of levels left. -/
def buildAt : Nat → String → Build Validator
  | 0, _ => .refuse (.tooDeep maxDepth)
  | n + 1, text => do
    let call ← Build.ofSpec (Call.parse shapeFor text)
    resolveWith (buildAt n) call.name call.args

/-- Make a validator of a spec that stands at a depth. -/
def build (text : String) (depth : Int) : Build Validator := buildAt (levels depth) text

/-- Make a validator by its name, at a depth. -/
def resolve (name : String) (args : List String) (depth : Int) : Build Validator :=
  resolveWith (buildAt (levels (depth + 1))) name args

end Registry

end ValueSpec
