/-
The command line.

Files are read before a request is run, so everything that a command decides is in
`Request.run`.
-/
import RowScope.Command.Request

open RowScope

/-- The content of a file, or why it cannot be read. -/
def readContent (path : String) : IO (Except String String) := do
  try
    return .ok (← IO.FS.readFile path)
  catch e =>
    return .error (toString e)

/-- The files of a request. -/
def readFiles (r : Request) : IO Files := do
  let contents ← r.paths.mapM fun path => do return (path, ← readContent path)
  return fun path => (contents.lookup path).getD (.error "not read")

/-- Answers the request that the arguments spell. -/
def answerArguments (arguments : List String) : IO (Except CommandError String) := do
  match Request.ofArguments arguments with
  | .error e => return .error e
  | .ok r => return r.run (← readFiles r)

/-- Prints the answer, or the error and a status that says so. -/
def main (arguments : List String) : IO UInt32 := do
  match ← answerArguments arguments with
  | .ok output =>
    IO.println output
    return 0
  | .error e =>
    IO.eprintln e.message
    return 1
