/-
The command `check`: a table of policies is tried out and listed.

* `PolicySummary.ofEntry` — a line of the list;
* `PolicySummary.check` — the list, if every entry is a rule and no target has two.
-/
import RowScope.Access.Grant
import RowScope.Command.Error
import RowScope.Json.Printer
import RowScope.Policy.RuleBook
import RowScope.Report.Grid

namespace RowScope

/-- A line of the list of policies. -/
structure PolicySummary where
  target : String
  mappings : List String
  join : String
deriving DecidableEq

/-- A mapping as a line of text. -/
def MappingEntry.summary (m : MappingEntry) : String :=
  let columns := ", ".intercalate ((m.keys.zip m.values).map fun (k, v) => k ++ " -> " ++ v)
  match m.capability with
  | none => columns
  | some capability => columns ++ " [unless " ++ capability ++ "]"

namespace PolicySummary

/-- The line for an entry of a table. -/
def ofEntry (p : PolicyEntry) : PolicySummary where
  target := p.target
  mappings := p.mappings.map MappingEntry.summary
  join := (p.join.map Join.name).getD "default"

/-- The list of the policies of a table, if it can be used with the settings. -/
def check (settings : Settings) (files : Files) (policies : String) :
    Except CommandError (List PolicySummary) := do
  let _ ← (Granter.ofSettings settings).mapError .policy
  let table ← files.read PolicyTable.read policies
  let _ ← (RuleBook.ofTable table).mapError .policy
  return table.entries.map ofEntry

def toJson (p : PolicySummary) : Json :=
  .obj [("target", .str p.target), ("mappings", .ofTexts p.mappings), ("join", .str p.join)]

/-- The list as a drawn table. -/
def grid (ps : List PolicySummary) : Grid where
  header := ["Target", "Mappings", "Join"]
  rows := ps.map fun p => [p.target, "\n".intercalate p.mappings, p.join]

def text (ps : List PolicySummary) : String :=
  (grid ps).render ++ "\n" ++ toString ps.length ++ " polic(ies) valid"

end PolicySummary

end RowScope
