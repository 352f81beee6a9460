import ValueSpec.Session

namespace ValueSpec

/-- Print the log and the result of a session. The answer is the status of the process. -/
def report (s : Session) : IO UInt32 := do
  if s.jsonLogs then
    for entry in s.written do
      IO.eprintln (Json.object entry).write
  match s.ending with
  | .stopped .help => return 0
  | .stopped .misuse => return 2
  | .failed f =>
    IO.eprintln f.message
    return 1
  | .finished o =>
    IO.print (Output.text o.out)
    IO.eprint (Output.text o.err)
    return o.status.toUInt32

/-- Run the program. Another library reads the settings, or tells what is wrong with them. -/
def program (processors : Log.Processors) (readSettings : IO (Except (List String) Settings))
    (args : List String) : IO UInt32 := do
  match ← readSettings with
  | .error issues =>
    for issue in issues do
      IO.eprintln issue
    return 1
  | .ok settings => report (Session.run processors settings .initial args)

end ValueSpec
