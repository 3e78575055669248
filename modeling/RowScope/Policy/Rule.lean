/-
Rules: which columns of a statement stand for the placeholders of the templates.

* `Mapping.ofLists` — a mapping from its placeholders and columns;
* `Rule.ofMappings` — a rule from its mappings;
* `Rule.joinFor` — how the conditions of a rule are joined for a statement.

Design notes: a column is written into fragments as it is, so a mapping admits only
names; a rule without mappings would grant nothing to anybody and is refused.
-/
import RowScope.Policy.Error
import RowScope.Statement
import RowScope.Text.Name

namespace RowScope

/-- Columns for some placeholders.  A user with the capability needs no condition
from the mapping. -/
structure Mapping where
  -- Placeholders, each with its column.
  columns : List (String × String)
  capability : Option String
  isColumn : ∀ c ∈ columns, Name.isColumn c.2 = true
deriving DecidableEq

namespace Mapping

def keys (m : Mapping) : List String :=
  m.columns.map Prod.fst

def values (m : Mapping) : List String :=
  m.columns.map Prod.snd

/-- A mapping from placeholders and as many columns. -/
def ofLists (keys columns : List String) (capability : Option String) :
    Except PolicyError Mapping :=
  if keys.length = columns.length then
    match h : columns.find? fun c => !Name.isColumn c with
    | some c => .error (.invalidColumn c)
    | none => .ok ⟨keys.zip columns, capability, fun c hc => by
        have := List.find?_eq_none.1 h c.2 (List.of_mem_zip hc).2
        simpa using this⟩
  else .error (.arity keys.length columns.length)

end Mapping

/-- The mappings for a statement, and how their conditions are joined if not as the
statement says. -/
structure Rule where
  mappings : List Mapping
  join : Option Join
  ne_nil : mappings ≠ []
deriving DecidableEq

namespace Rule

/-- A rule from its mappings. -/
def ofMappings (mappings : List Mapping) (join : Option Join) : Except PolicyError Rule :=
  if h : mappings = [] then .error .emptyRule else .ok ⟨mappings, join, h⟩

/-- How the conditions of the rule are joined for a statement. -/
def joinFor (r : Rule) (s : Statement) : Join :=
  r.join.getD s.join

end Rule

end RowScope
