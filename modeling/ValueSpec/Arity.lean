import ValueSpec.SpecError

namespace ValueSpec

/-- How many arguments a validator takes. -/
structure Arity where
  least : Int
  /-- The greatest number, if there is one. -/
  most : Option Int
  deriving DecidableEq, Repr

namespace Arity

def accepts (a : Arity) (count : Int) : Bool := a.least ≤ count && a.most.all (count ≤ ·)

/-- The error for another number of arguments. -/
def error (a : Arity) (name : String) : SpecError :=
  if a.most = none && a.least = 1 then .requiresAnArgument name else .requiresArguments name a.least

end Arity

end ValueSpec
