/-
Tables of policies.

A table is a document: one entry per target, with the lists of a rule as they are
written.

* `PolicyTable.ofJson`, `PolicyTable.toJson` — a table read and written;
* `PolicyTable.toRules` — the rules of a table, or the first error in it.
-/
import RowScope.Json.Parser
import RowScope.Policy.Rule

namespace RowScope

/-- A mapping as it is written. -/
structure MappingEntry where
  keys : List String
  values : List String
  capability : Option String
deriving DecidableEq

/-- The rule of a target as it is written. -/
structure PolicyEntry where
  target : String
  mappings : List MappingEntry
  join : Option Join
deriving DecidableEq

/-- A table of policies. -/
structure PolicyTable where
  entries : List PolicyEntry
deriving DecidableEq

namespace MappingEntry

def ofJson (j : Json) : Except DecodeError MappingEntry := do
  let field ← j.fields ["keys", "values", "capability"]
  return {
    keys := ← Json.required field "keys" (Json.listOf Json.asText)
    values := ← Json.required field "values" (Json.listOf Json.asText)
    capability := ← Json.optional field "capability" none (Json.nullable Json.asText) }

/-- A mapping as JSON, without the capability if there is none. -/
def toJson (m : MappingEntry) : Json :=
  .obj ([("keys", .ofTexts m.keys), ("values", .ofTexts m.values)]
    ++ m.capability.toList.map fun c => ("capability", .str c))

/-- The mapping that an entry stands for. -/
def toMapping (m : MappingEntry) : Except PolicyError Mapping :=
  Mapping.ofLists m.keys m.values m.capability

end MappingEntry

namespace PolicyEntry

def ofJson (j : Json) : Except DecodeError PolicyEntry := do
  let field ← j.fields ["target", "mappings", "join"]
  return {
    target := ← Json.required field "target" Json.asText
    mappings := ← Json.required field "mappings" (Json.listOf MappingEntry.ofJson)
    join := ← Json.optional field "join" none (Json.nullable Join.ofJson) }

/-- The rule of a target as JSON, without the join if there is none. -/
def toJson (p : PolicyEntry) : Json :=
  .obj ([("target", .str p.target), ("mappings", .arr (p.mappings.map MappingEntry.toJson))]
    ++ p.join.toList.map fun j => ("join", .str j.name))

/-- The rule that an entry stands for. -/
def toRule (p : PolicyEntry) : Except PolicyError Rule := do
  let mappings ← p.mappings.mapM MappingEntry.toMapping
  Rule.ofMappings mappings p.join

end PolicyEntry

namespace PolicyTable

def ofJson (j : Json) : Except DecodeError PolicyTable :=
  (j.listOf PolicyEntry.ofJson).map .mk

def toJson (t : PolicyTable) : Json :=
  .arr (t.entries.map PolicyEntry.toJson)

/-- A table from the text of a document. -/
def read (text : String) : Except PolicyError PolicyTable :=
  (Json.readText ofJson text).mapError .document

/-- The targets with their rules, in the order of the table. -/
def toRules (t : PolicyTable) : Except PolicyError (List (String × Rule)) :=
  t.entries.mapM fun p => p.toRule.map (p.target, ·)

end PolicyTable

end RowScope
