/-
Requests of the command line.

* `Request.ofArguments` — the request that some arguments spell;
* `Request.run` — the text that answers it.

Design notes: an option may be written `--name value` or `--name=value`, and only once.
-/
import RowScope.Command.Explanation
import RowScope.Command.Summary

namespace RowScope

/-- How an answer is written. -/
inductive OutputFormat where
  | table
  | json
deriving DecidableEq

/-- What is asked for. -/
inductive Action where
  | check (policies : String)
  | explain (policies user directory query : String) (write : Bool) (filter : Option String)
deriving DecidableEq

/-- A command with its general options. -/
structure Request where
  config : Option String
  format : OutputFormat
  action : Action
deriving DecidableEq

/-- Arguments sorted into words and options. -/
structure Arguments where
  words : List String
  options : KeyMap String String

namespace Arguments

def empty : Arguments := ⟨[], .empty⟩

/-- One more option; a second one of the same name is refused. -/
def withOption (a : Arguments) (name value : String) : Option Arguments :=
  if a.options.contains name then none
  else some { a with options := a.options.insert name value }

/-- An argument that names an option and gives its value. -/
def assignment? (argument : String) : Option (String × String) :=
  match argument.toList.span (· != '=') with
  | (name, '=' :: value) => some (String.ofList name, String.ofList value)
  | _ => none

/-- Sorts arguments.  The options that have a value are given by name; other options
have none. -/
def sort (valued : List String) (a : Arguments) : List String → Option Arguments
  | [] => some a
  | argument :: rest =>
    if startsWith "--" argument then
      match assignment? argument with
      | some (name, value) =>
        if valued.contains name then (a.withOption name value).bind (sort valued · rest)
        else none
      | none =>
        if valued.contains argument then
          match rest with
          | [] => none
          | value :: rest => (a.withOption argument value).bind (sort valued · rest)
        else (a.withOption argument "").bind (sort valued · rest)
    else sort valued { a with words := a.words ++ [argument] } rest

/-- Whether all options have one of some names. -/
def onlyOptions (a : Arguments) (names : List String) : Bool :=
  a.options.keys.all names.contains

end Arguments

namespace OutputFormat

/-- The format of a name. -/
def ofName? : String → Option OutputFormat
  | "table" => some table
  | "json" => some json
  | _ => none

end OutputFormat

namespace Request

/-- The options of every command. -/
def generalOptions : List String :=
  ["--config", "--format"]

/-- The options that have a value. -/
def valuedOptions : List String :=
  generalOptions ++ ["--policies", "--user", "--directory", "--query", "--filter"]

/-- The command that some arguments spell. -/
def action? (a : Arguments) : Option Action := do
  match a.words with
  | ["check"] =>
    guard (a.onlyOptions (generalOptions ++ ["--policies"]))
    return .check (← a.options.find? "--policies")
  | ["explain"] =>
    guard (a.onlyOptions ("--write" :: valuedOptions))
    return .explain (← a.options.find? "--policies") (← a.options.find? "--user")
      (← a.options.find? "--directory") (← a.options.find? "--query")
      (a.options.contains "--write") (a.options.find? "--filter")
  | _ => none

/-- The request that some arguments spell. -/
def ofArguments (arguments : List String) : Except CommandError Request :=
  let request? : Option Request := do
    let a ← Arguments.empty.sort valuedOptions arguments
    let format ← OutputFormat.ofName? ((a.options.find? "--format").getD "table")
    return { config := a.options.find? "--config", format, action := ← action? a }
  match request? with
  | some r => .ok r
  | none => .error .usage

/-- The paths of the files that a request needs. -/
def paths (r : Request) : List String :=
  r.config.toList ++ match r.action with
    | .check policies => [policies]
    | .explain policies user directory _ _ _ => [policies, user, directory]

/-- The settings of a request. -/
def settings (r : Request) (files : Files) : Except CommandError Settings :=
  match r.config with
  | none => .ok .standard
  | some path => files.read Settings.read path

/-- The text that answers a request. -/
def run (r : Request) (files : Files) : Except CommandError String := do
  let settings ← r.settings files
  match r.action with
  | .check policies =>
    let summaries ← PolicySummary.check settings files policies
    return match r.format with
      | .table => PolicySummary.text summaries
      | .json => (Json.arr (summaries.map PolicySummary.toJson)).pretty
  | .explain policies user directory query write filter =>
    let statement : Statement := if write then .update else .select
    let e ← Explanation.explain settings files policies user directory query statement filter
    return match r.format with
      | .table => e.text
      | .json => e.toJson.pretty

end Request

end RowScope
