import ValueSpec.CommandLine.Line
import ValueSpec.Suite

namespace ValueSpec

inductive Command
  | check (spec : String) (values : List String) (json : Bool)
  | explain (spec : String)
  | lint (specs : List String)
  | validators
  deriving DecidableEq, Repr

/-- A command together with the switches that stand before it. -/
structure Invocation where
  /-- The log level that was asked for. -/
  logLevel : Option String := none
  jsonLogs : Bool := false
  command : Command
  deriving DecidableEq, Repr

/-! ### Reading the command line -/

namespace CommandLine

def helpSwitch : Switch := { name := "--help", letter := some 'h', role := .help }

def levelSwitch : Switch := { name := "--log-level", role := .value }

def jsonLogsSwitch : Switch := { name := "--json-logs", role := .flag }

def jsonSwitch : Switch := { name := "--json", role := .flag }

/-- The usage of the program: the name of a command, and the rest is for that. -/
def programUsage : Usage := ⟨[helpSwitch, levelSwitch, jsonLogsSwitch], [.rest]⟩

def commandUsage? : String → Option Usage
  | "check" => some ⟨[helpSwitch, jsonSwitch], [.one, .several]⟩
  | "explain" => some ⟨[helpSwitch], [.one]⟩
  | "lint" => some ⟨[helpSwitch], [.several]⟩
  | "validators" => some ⟨[helpSwitch], []⟩
  | _ => none

end CommandLine

namespace Command

def name : Command → String
  | check .. => "check"
  | explain _ => "explain"
  | lint _ => "lint"
  | validators => "validators"

/-- The command of a name and what was found on its command line. -/
def ofLine? (name : String) (line : CommandLine.Line) : Option Command :=
  match name, line.operands with
  | "check", [[spec], values] => some (check spec values (line.has CommandLine.jsonSwitch))
  | "explain", [[spec]] => some (explain spec)
  | "lint", [specs] => some (lint specs)
  | "validators", [] => some validators
  | _, _ => none

end Command

/-- Read the command line of the program. -/
def Invocation.read (args : List String) : Except CommandLine.Stop Invocation := do
  let outer ← CommandLine.programUsage.read args
  match outer.operands with
  | [name :: words] =>
    match CommandLine.commandUsage? name with
    | none => .error .misuse
    | some usage =>
      let inner ← usage.read words
      match Command.ofLine? name inner, outer.unknown, inner.unknown with
      | some command, [], [] =>
        return { logLevel := outer.value? CommandLine.levelSwitch
                 jsonLogs := outer.has CommandLine.jsonLogsSwitch
                 command }
      | _, _, _ => .error .misuse
  | _ => .error .misuse

/-! ### What is printed -/

/-- What a command prints, line by line, and the status it ends with. -/
structure Output where
  status : Nat := 0
  out : List String := []
  err : List String := []
  deriving DecidableEq, Repr

namespace Output

def rejectedStatus : Nat := 1

/-- The status if a spec is wrong. -/
def refusedStatus : Nat := 2

def text (lines : List String) : String := String.join (lines.map (· ++ "\n"))

end Output

def goodLine (text : String) : String := "✓ " ++ text

def badLine (text : String) : String := "✗ " ++ text

namespace Log

def valuesChecked (spec : String) (total failed : Nat) : Event where
  domain := "cli"
  level := .debug
  name := "values_checked"
  fields := [("spec", .text spec), ("total", .int total), ("failed", .int failed)]

def specsLinted (total failed : Nat) : Event where
  domain := "cli"
  level := .debug
  name := "specs_linted"
  fields := [("total", .int total), ("failed", .int failed)]

end Log

namespace Validator

/-- The line of a validator on a level of its tree. -/
def line (level : Nat) (v : Validator) : String :=
  String.ofList (List.replicate (2 * level) ' ') ++ v.name ++ " (" ++ v.kind ++ "): " ++
    v.description

mutual

def tree (level : Nat) : Validator → List String
  | leaf l => [(leaf l).line level]
  | all vs => (all vs).line level :: trees (level + 1) vs
  | any vs => (any vs).line level :: trees (level + 1) vs
  | not v => (not v).line level :: v.tree (level + 1)

def trees (level : Nat) : List Validator → List String
  | [] => []
  | v :: vs => v.tree level ++ trees level vs

end

end Validator

def Entry.line (e : Entry) : String :=
  let arity := e.form.arity
  let aliases :=
    if e.aliases.isEmpty then "" else " (aliases: " ++ ", ".intercalate e.aliases ++ ")"
  let most := (arity.most.map Integer.numeral).getD "*"
  e.name ++ aliases ++ "  args: " ++ Integer.numeral arity.least ++ ".." ++ most

/-! ### Carrying out commands -/

namespace Command

/-- What happens while a command is carried out: its events, and a fault or a result. -/
abbrev Course := Traced Log.Event Fault

/-- A suite of a text that lists specs, or the message of the error. -/
def suite (cat : Catalog) (spec : String) : Course (Except String (List Validator)) :=
  let r := Suite.parseList cat spec
  match r.result with
  | .ok vs => ⟨r.trace, .ok (.ok vs)⟩
  | .error (.fault f) => ⟨r.trace, .error f⟩
  | .error (.spec e) => ⟨r.trace, (e.text cat).map .error⟩

/-- Carry out a command with the suite of a spec; if the spec is wrong its error is printed. -/
def withSuite (cat : Catalog) (spec : String) (go : List Validator → Course Output) :
    Course Output := do
  match ← suite cat spec with
  | .error message => return { status := Output.refusedStatus, err := [badLine message] }
  | .ok vs => go vs

/-- The line of a checked value. -/
def outcomeLine (cat : Catalog) (json : Bool) (value : String) (o : Outcome) :
    Except Fault String :=
  if json then do
    let fields ← o.document cat
    return (Json.object (Record.overlay [("input", .text value)] fields)).write
  else
    match o with
    | .accepted => .ok (goodLine (Text.quote value ++ ": ok"))
    | .rejected why => do return badLine (Text.quote value ++ ": " ++ (← why.render cat))

/-- Check values. The result is a line for each and the number of those that were rejected. -/
def checkValues (cat : Catalog) (json : Bool) (vs : List Validator) :
    List String → Except Fault (List String × Nat)
  | [] => .ok ([], 0)
  | value :: values => do
    let o ← (checkAll value vs).result
    let line ← outcomeLine cat json value o
    let (lines, failed) ← checkValues cat json vs values
    return (line :: lines, if o.isAccepted then failed else failed + 1)

def lintSpecs (cat : Catalog) : List String → Course (List (Result (List Validator)))
  | [] => return []
  | spec :: specs => do
    let r ← Suite.tryParse cat (splitSpecs spec)
    return r :: (← lintSpecs cat specs)

def perform (cat : Catalog) : Command → Course Output
  | check spec values json =>
    withSuite cat spec fun vs => do
      let (out, failed) ← .of (checkValues cat json vs values)
      .note (Log.valuesChecked spec values.length failed)
      return { status := if failed = 0 then 0 else Output.rejectedStatus, out }
  | explain spec => withSuite cat spec fun vs => return { out := Validator.trees 0 vs }
  | lint specs => do
    match collect (← lintSpecs cat specs) with
    | .ok suites => return { out := [goodLine (toString suites.length ++ " spec(s) OK")] }
    | .error reports =>
      .note (Log.specsLinted specs.length reports.length)
      return { status := Output.refusedStatus, out := reports.map fun r => badLine r.text }
  | validators => return { out := Registry.entries.map Entry.line }

end Command

end ValueSpec
