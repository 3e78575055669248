/-
What can go wrong with a command.

* `CommandError` — the causes, with their wording in `CommandError.message`;
* `Files` — the files that a command may read.
-/
import RowScope.Policy.Error

namespace RowScope

/-- The files that a command may read: the content of a path, or why there is none. -/
abbrev Files := String → Except String String

/-- Why a command has no result. -/
inductive CommandError where
  -- The policies or the settings are not usable.
  | policy (cause : PolicyError)
  -- The condition of the statement is none; the report shows where.
  | filter (report : String)
  -- The file of a user or a directory cannot be read.
  | input (path : String) (message : String)
  -- The arguments are not those of a command.
  | usage
deriving DecidableEq

/-- How the commands are called. -/
def usageText : String :=
  "usage: check --policies FILE\n"
    ++ "       explain --policies FILE --user FILE --directory FILE --query NAME\n"
    ++ "               [--write] [--filter CONDITION]\n"
    ++ "options: --config FILE, --format table|json"

def CommandError.message : CommandError → String
  | policy cause => "configuration error: " ++ cause.message
  | filter report => report
  | input path message => "cannot read " ++ path ++ ": " ++ message
  | usage => usageText

/-- A document of a file. -/
def Files.read {α : Type} (files : Files) (ofText : String → Except PolicyError α)
    (path : String) : Except CommandError α := do
  let text ← (files path).mapError fun message => .policy (.file message)
  (ofText text).mapError .policy

end RowScope
