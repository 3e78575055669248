/-
The command `explain`: what a user may see of a statement.

* `Explanation.ofStatement` — a statement before and after its rule is enforced;
* `Explanation.explain` — the same with everything read from files.
-/
import RowScope.Access.Cache
import RowScope.Access.Directory
import RowScope.Access.Enforcer
import RowScope.Command.Error
import RowScope.Filter.Sql
import RowScope.Json.Printer
import RowScope.Report.Grid

namespace RowScope

/-- A statement before and after its rule is enforced. -/
structure Explanation where
  query : String
  statement : Statement
  before : Option String
  after : Option String
  outcome : String
deriving DecidableEq

namespace Explanation

/-- A statement of a user before and after its rule is enforced. -/
def ofStatement (settings : Settings) (rules : RuleBook) (user : User) (directory : Directory)
    (query : String) (statement : Statement) (existing : Option Filter) :
    Except PolicyError Explanation := do
  let granter ← Granter.ofSettings settings
  let resolver : Resolver Unit := Resolver.ofFunction (directory.resolve settings.sentinel)
  let enforcer : Enforcer (Cache × Unit) := {
    rules, granter
    resolver := resolver.cached
    lookup? := none }
  let (verdict, _) := enforcer.enforce query existing statement (Session.ofUser user) (.empty, ())
  return {
    query, statement
    before := existing.map Filter.sql
    after := verdict.filter.map Filter.sql
    outcome := verdict.outcome.text }

/-- A user or a directory from a file. -/
def readInput {α : Type} (files : Files) (ofJson : Json → Except DecodeError α)
    (path : String) : Except CommandError α := do
  let text ← (files path).mapError (.input path)
  (Json.readText ofJson text).mapError fun e => .input path e.message

/-- The condition of a statement as it is given. -/
def readFilter (source : String) : Except CommandError Filter :=
  (Filter.parse source).mapError fun d => .filter (d.report source.toList)

/-- A statement explained, with everything read from files. -/
def explain (settings : Settings) (files : Files) (policies user directory : String)
    (query : String) (statement : Statement) (filter : Option String) :
    Except CommandError Explanation := do
  let table ← files.read PolicyTable.read policies
  let rules ← (RuleBook.ofTable table).mapError .policy
  let u ← readInput files User.ofJson user
  let d ← readInput files Directory.ofJson directory
  let existing ← filter.mapM readFilter
  (ofStatement settings rules u d query statement existing).mapError .policy

def toJson (e : Explanation) : Json :=
  .obj [("query", .str e.query), ("kind", .str e.statement.name),
    ("original", .ofText? e.before), ("rewritten", .ofText? e.after),
    ("outcome", .str e.outcome)]

/-- An explanation as a drawn table. -/
def grid (e : Explanation) : Grid where
  header := ["Field", "Value"]
  rows := [["query", e.query], ["statement", e.statement.word],
    ["original", e.before.getD "<none>"], ["rewritten", e.after.getD "<none>"],
    ["outcome", e.outcome]]

def text (e : Explanation) : String :=
  e.grid.render

end Explanation

end RowScope
