import ValueSpec.Value

namespace ValueSpec

/-- The kinds of exceptions that a custom check can raise. -/
inductive Exception
  /-- The value is not suitable. -/
  | unsuitable
  /-- The value is of the wrong type. -/
  | wrongType
  /-- Anything else, by its name. -/
  | other (kind : String)
  deriving DecidableEq, Repr

/-- What a custom check says of a value. -/
inductive Reply
  | returned (v : Value)
  | raised (e : Exception) (text : String)
  deriving Repr

/-- A custom check. Two checks are the same if they have the same number. -/
structure Check where
  id : Nat
  run : String → Reply

end ValueSpec
