import ValueSpec.Fault
import ValueSpec.Json

/-!
# The log

What the library does can be followed in a log of events. An event belongs to a domain, has a
level and a name, and carries fields. It is written as a document, with the fields of the context
bound at the time, if its level reaches the threshold. The texts of specs and of reasons are
shortened.
-/

namespace ValueSpec

namespace Log

inductive Level
  | debug
  | info
  | warning
  | error
  | critical
  deriving DecidableEq, Repr

def Level.name : Level → String
  | debug => "debug"
  | info => "info"
  | warning => "warning"
  | error => "error"
  | critical => "critical"

def Level.weight : Level → Nat
  | debug => 10
  | info => 20
  | warning => 30
  | error => 40
  | critical => 50

/-- The level with a given name; some levels have two. -/
def Level.ofName? : String → Option Level
  | "debug" => some debug
  | "info" => some info
  | "warning" | "warn" => some warning
  | "error" => some error
  | "critical" | "fatal" => some critical
  | _ => none

structure Event where
  /-- The part of the library that the event belongs to. -/
  domain : String
  level : Level
  name : String
  fields : Record Json := []

/-! ### Thresholds -/

/-- The capitals that a character becomes, as far as they can be ASCII. -/
def capitals (c : Char) : List Char :=
  match c with
  | 'ß' => ['S', 'S']
  | 'ı' => ['I']
  | 'ſ' => ['S']
  | 'ﬀ' => ['F', 'F']
  | 'ﬁ' => ['F', 'I']
  | 'ﬂ' => ['F', 'L']
  | 'ﬃ' => ['F', 'F', 'I']
  | 'ﬄ' => ['F', 'F', 'L']
  | 'ﬅ' | 'ﬆ' => ['S', 'T']
  | c => [c.toUpper]

/-- A text that has a name where levels are named and is no level. -/
def layout : String := "%(levelname)s:%(name)s:%(message)s"

/-- A table that has a name where levels are named, as it is shown. -/
def styles : String :=
  "\x7b'%': (<class 'logging.PercentStyle'>, '%(levelname)s:%(name)s:%(message)s'), " ++
    "'\x7b': (<class 'logging.StrFormatStyle'>, " ++
    "'\x7blevelname\x7d:\x7bname\x7d:\x7bmessage\x7d'), " ++
    "'$': (<class 'logging.StringTemplateStyle'>, " ++
    "'$\x7blevelname\x7d:$\x7bname\x7d:$\x7bmessage\x7d')\x7d"

/-- The threshold that events have to reach if nothing else is said. -/
def usualThreshold : Nat := Level.warning.weight

/-- The threshold with a given name, in any letter case. An unknown name means the usual one, but
two names are known and stand for something else. -/
def thresholdOf (level : String) : Except Fault Nat :=
  match String.ofList (level.toList.flatMap capitals) with
  | "CRITICAL" | "FATAL" => .ok 50
  | "ERROR" => .ok 40
  | "WARNING" | "WARN" => .ok 30
  | "INFO" => .ok 20
  | "DEBUG" => .ok 10
  | "NOTSET" => .ok 0
  | "BASIC_FORMAT" => .error (.unknownLevel (Text.quote layout))
  | "_STYLES" => .error (.notALevel styles)
  | _ => .ok usualThreshold

/-! ### Writing -/

def longFields : List String := ["spec", "reason"]

/-- The number of characters that are kept of a long text. -/
def maxFieldChars : Nat := 200

/-- A text of which only the beginning is kept if it is long, with its true length. -/
def shorten (text : String) : String :=
  if maxFieldChars < text.length then
    String.ofList (text.toList.take maxFieldChars) ++ "... (" ++ toString text.length ++ " chars)"
  else text

/-- A field as it is written. -/
def written (field : String × Json) : String × Json :=
  match field with
  | (name, .text s) => (name, .text (if longFields.contains name then shorten s else s))
  | field => field

def library : String := "flagspec"

/-- The processors that an event passes before those of the library: from the context and the event
they make fields. They belong to another library. -/
abbrev Processors := Record Json → Event → Record Json

/-- What is documented of these processors: the name, the level and the logger of an event are
fields, and so are its own fields but for those with a meaning for the processors themselves. -/
structure Processors.Documented (p : Processors) : Prop where
  event : ∀ context e, (p context e).get? "event" = some (.text e.name)
  level : ∀ context e, (p context e).get? "level" = some (.text e.level.name)
  logger : ∀ context e, (p context e).get? "logger" = some (.text (library ++ "." ++ e.domain))
  own : ∀ context e name v, e.fields.names.Nodup → e.fields.get? name = some v →
    name ∉ ["event", "level", "logger", "timestamp", "positional_args", "stack_info", "exc_info"] →
    (p context e).get? name = some v

/-- Processors that do what is documented: an event's own fields win over those of the context, and
its level and logger win over both. -/
def Processors.standard : Processors := fun context e =>
  let fields := (context.overlay e.fields).set "event" (.text e.name)
  (fields.set "level" (.text e.level.name)).set "logger" (.text (library ++ "." ++ e.domain))

/-- The document of an event in a context. -/
def document (p : Processors) (context : Record Json) (e : Event) : Record Json :=
  let fields := p context e
  let fields :=
    if (fields.get? "library").isSome then fields else fields.set "library" (.text library)
  fields.map written

end Log

/-- How the log is kept. Before it has been configured nothing is written. -/
structure Log where
  configured : Bool := false
  threshold : Nat := Log.usualThreshold
  /-- The fields that are bound for all events. -/
  context : Record Json := []
  processors : Log.Processors

namespace Log

/-- Begin to write events from a level on. A name that is no level leaves the threshold alone. -/
def configure (log : Log) (level : String) : Log × Except Fault Unit :=
  match thresholdOf level with
  | .ok n => ({ log with configured := true, threshold := n }, .ok ())
  | .error f => ({ log with configured := true }, .error f)

def bind (log : Log) (fields : Record Json) : Log :=
  { log with context := log.context.overlay fields }

def clear (log : Log) : Log := { log with context := [] }

def records (log : Log) (e : Event) : Bool := log.configured && log.threshold ≤ e.level.weight

/-- The documents that are written for some events. -/
def write (log : Log) (events : List Event) : List (Record Json) :=
  (events.filter log.records).map (document log.processors log.context)

end Log

end ValueSpec
