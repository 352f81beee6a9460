import ValueSpec.Leaf
import ValueSpec.Traced

/-!
# Validators

A validator is a tree: its leaves check one property each, and its inner nodes demand all of
several validators, any of them, or the contrary of one. Children are tried from left to right and
only as far as the answer is open. A value that fails all of several alternatives is rejected with
the rejections of each of them. An inner node without children accepts everything.
-/

namespace ValueSpec

/-- A check of a value, with the labels of the custom functions that it called, in order. -/
abbrev Run := Traced String Fault

inductive Validator
  | leaf (l : Leaf)
  | all (vs : List Validator)
  | any (vs : List Validator)
  | not (v : Validator)

namespace Validator

/-! ### Names -/

mutual

def name : Validator → String
  | leaf l => l.name
  | all vs => Leaf.named "all" (Leaf.commas (namesOf vs))
  | any vs => Leaf.named "any" (Leaf.commas (namesOf vs))
  | not v => Leaf.named "not" v.name

def namesOf : List Validator → List String
  | [] => []
  | v :: vs => v.name :: namesOf vs

end

mutual

def integers : Validator → List Int
  | leaf l => l.integers
  | all vs | any vs => integersOf vs
  | not v => v.integers

def integersOf : List Validator → List Int
  | [] => []
  | v :: vs => v.integers ++ integersOf vs

end

/-- Can the name of a validator be written? -/
def isNameable (v : Validator) : Bool := v.integers.all Integer.isShort

def writeName (v : Validator) : Except Fault String := Integer.writing v.integers v.name

def kind : Validator → String
  | leaf l => l.kind
  | all _ | any _ => "composite"
  | not _ => "logic"

def description : Validator → String
  | leaf l => l.description
  | all _ => "All validators must pass"
  | any _ => "At least one validator must pass"
  | not v => "Not " ++ v.description

def children : Validator → List Validator
  | leaf _ => []
  | all vs | any vs => vs
  | not v => [v]

/-! ### Checking values -/

mutual

def run (value : String) : Validator → Run Outcome
  | leaf l => ⟨l.calls, l.outcome value⟩
  | all vs => runAll value vs
  | any vs => do
    match ← runAny value vs with
    | some (why :: others) =>
      let validator ← .of (any vs).writeName
      return .rejected { code := .combinedFailed, value, validator, causes := why :: others }
    | _ => return .accepted
  | not v => do
    match ← v.run value with
    | .accepted =>
      let validator ← .of (not v).writeName
      return .rejected { code := .valueCannotBe, value, validator }
    | .rejected _ => return .accepted

/-- Check a value by several validators up to the first that rejects it. -/
def runAll (value : String) : List Validator → Run Outcome
  | [] => return .accepted
  | v :: vs => do
    match ← v.run value with
    | .accepted => runAll value vs
    | .rejected why => return .rejected why

/-- Check a value by several validators up to the first that accepts it. If none does, the answer
is the list of the rejections. -/
def runAny (value : String) : List Validator → Run (Option (List Rejection))
  | [] => return some []
  | v :: vs => do
    match ← v.run value with
    | .accepted => return none
    | .rejected why => return (← runAny value vs).map (why :: ·)

end

/-! ### Equality -/

mutual

/-- Are two validators the same? Bounds are compared as numbers. -/
def same : Validator → Validator → Bool
  | leaf l, leaf l' => l.same l'
  | all vs, all vs' => sameAll vs vs'
  | any vs, any vs' => sameAll vs vs'
  | not v, not v' => v.same v'
  | _, _ => false

def sameAll : List Validator → List Validator → Bool
  | [], [] => true
  | v :: vs, v' :: vs' => v.same v' && sameAll vs vs'
  | _, _ => false

end

end Validator

/-- Check a value by a list of validators up to the first that rejects it. -/
def checkAll (value : String) : List Validator → Run Outcome
  | [] => return .accepted
  | v :: vs => do
    match ← v.run value with
    | .accepted => checkAll value vs
    | .rejected why => return .rejected why

end ValueSpec
