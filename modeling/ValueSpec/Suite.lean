import ValueSpec.Log
import ValueSpec.Registry
import ValueSpec.Report
import ValueSpec.Traced

/-!
# Suites

A suite is a list of validators made of a list of specs, which a value must all pass. Blank specs
are passed over. If one spec is wrong there is no suite, and the error names the first that is
wrong. Every spec that is read leaves an event.

An error has a message from the start, which is made with the catalog in force; if this cannot be
done there is a fault in the place of the error.
-/

namespace ValueSpec

namespace Log

def specParsed (spec : String) (v : Validator) : Event where
  domain := "parser"
  level := .debug
  name := "validator_spec_parsed"
  -- the name is at hand: the integers in a spec, and so those in its names, can be written
  fields := [("spec", .text spec), ("validator", .text v.name), ("kind", .text v.kind)]

def specRejected (spec : String) (code : Code) (reason : String) : Event where
  domain := "parser"
  level := .warning
  name := "validator_spec_rejected"
  fields := [("spec", .text spec), ("code", .text code.name), ("reason", .text reason)]

def catalogMissing (locale : String) : Event where
  domain := "messages"
  level := .warning
  name := "message_catalog_missing"
  fields := [("locale", .text locale), ("fallback", .text "en")]

/-- The event of looking for the catalog of a locale, if there is one. -/
def catalogEvents (t : Catalog.Table) (locale : String) : List Event :=
  if (t.find? locale).isSome then [] else [catalogMissing locale]

end Log

/-- A result whose error has a message in a catalog. -/
def Build.published {α : Type} (cat : Catalog) (r : Build α) : Build α :=
  match r with
  | .error (.spec e) =>
    match e.text cat with
    | .ok _ => .error (.spec e)
    | .error f => .error (.fault f)
  | r => r

namespace Suite

/-- The making of validators, with its events. -/
abbrev Reading := Traced Log.Event BuildError

def parse (cat : Catalog) (spec : String) : Reading Validator :=
  match Registry.build spec 0 with
  | .ok v => ⟨[Log.specParsed spec v], .ok v⟩
  | .error (.fault f) => .of (.error (.fault f))
  | .error (.spec e) =>
    match e.text cat with
    | .error f => .of (.error (.fault f))
    | .ok reason => ⟨[Log.specRejected spec e.root.code reason], .error (.spec e)⟩

/-- The error of a spec in a list, which names the spec. -/
def blame (cat : Catalog) (spec : String) (e : SpecError) : BuildError :=
  match e.text cat with
  | .error f => .fault f
  | .ok reason =>
    let outer : SpecError := .malformed spec (.wrapped reason) (some e)
    match outer.text cat with
    | .error f => .fault f
    | .ok _ => .spec outer

/-- A reading whose error names the spec. -/
def blaming {α : Type} (cat : Catalog) (spec : String) (r : Reading α) : Reading α :=
  match r.result with
  | .error (.spec e) => ⟨r.trace, .error (blame cat spec e)⟩
  | _ => r

def parseAll (cat : Catalog) : List String → Reading (List Validator)
  | [] => return []
  | spec :: rest => do
    if Text.isBlankText spec then parseAll cat rest
    else
      let v ← blaming cat spec (parse cat spec)
      let vs ← parseAll cat rest
      return v :: vs

/-- Make a suite of a text that lists specs. -/
def parseList (cat : Catalog) (text : String) : Reading (List Validator) :=
  parseAll cat (splitSpecs text)

/-- A result in which an error of a spec has become a report. -/
def reported {α : Type} (cat : Catalog) (origin : String) : Build α → Except Fault (Result α)
  | .ok a => .ok (.ok a)
  | .error (.fault f) => .error f
  | .error (.spec e) => (e.toReport cat origin).map .error

/-- Make a suite of specs, or a report. -/
def tryParse (cat : Catalog) (specs : List String) :
    Traced Log.Event Fault (Result (List Validator)) :=
  let r := parseAll cat specs
  ⟨r.trace, reported cat "parse_validators" r.result⟩

def tryResolve (cat : Catalog) (name : String) (args : List String) (depth : Int) :
    Except Fault (Result Validator) :=
  reported cat "registry" (Build.published cat (Registry.resolve name args depth))

end Suite

end ValueSpec
