import ValueSpec.Fault
import ValueSpec.SpecError

namespace ValueSpec

/-- Why a validator could not be made. -/
inductive BuildError
  | spec (e : SpecError)
  | fault (f : Fault)

/-- The result of a construction. -/
abbrev Build (α : Type) := Except BuildError α

namespace Build

variable {α : Type}

/-- Stop with an error of the spec. -/
def refuse (e : SpecError) : Build α := .error (.spec e)

/-- A result in which only errors of the spec are possible. -/
def ofSpec : Except SpecError α → Build α := Except.mapError .spec

@[simp] theorem ofSpec_ok (a : α) : ofSpec (.ok a) = .ok a := rfl

@[simp] theorem ofSpec_error (e : SpecError) :
    ofSpec (.error e : Except SpecError α) = refuse e := rfl

end Build

end ValueSpec
