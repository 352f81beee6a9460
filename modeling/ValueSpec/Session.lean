import ValueSpec.Command

namespace ValueSpec

/-- The settings of a program run: from which level on events are logged, whether the log is written
for machines, and the locale of messages. -/
structure Settings where
  logLevel : String := "WARNING"
  logJson : Bool := false
  locale : String := "en"
  deriving DecidableEq, Repr

inductive Ending
  /-- The command line was not carried out. -/
  | stopped (why : CommandLine.Stop)
  /-- A fault stopped the command. -/
  | failed (f : Fault)
  | finished (o : Output)

/-- A run of the program: what was written to the log, and how it ended. -/
structure Session where
  /-- Is the log for machines? -/
  jsonLogs : Bool := false
  written : List (Record Json) := []
  ending : Ending

namespace Session

/-- The log level of an invocation: the one that was asked for, unless it is empty, or the usual
one. -/
def level (settings : Settings) (i : Invocation) : String :=
  match i.logLevel with
  | some level => if level.isEmpty then settings.logLevel else level
  | none => settings.logLevel

def ofInvocation (processors : Log.Processors) (settings : Settings) (table : Catalog.Table)
    (i : Invocation) : Session :=
  let jsonLogs := i.jsonLogs || settings.logJson
  let (log, configured) := Log.configure { processors } (level settings i)
  match configured with
  | .error f => { jsonLogs, ending := .failed f }
  | .ok () =>
    let log := log.bind [("command", .text i.command.name)]
    let course := i.command.perform (table.find settings.locale)
    { jsonLogs
      written := log.write course.trace
      ending := match course.result with
        | .ok o => .finished o
        | .error f => .failed f }

def run (processors : Log.Processors) (settings : Settings) (table : Catalog.Table)
    (args : List String) : Session :=
  match Invocation.read args with
  | .error why => { ending := .stopped why }
  | .ok i => ofInvocation processors settings table i

end Session

end ValueSpec
