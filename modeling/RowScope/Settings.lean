/-
Settings.

* `Settings.standard` — the settings unless a document changes them;
* `Settings.sentinel` — the value that stands for an empty set of ids.
-/
import RowScope.Ascending
import RowScope.Json.Parser
import RowScope.Policy.Error
import RowScope.Text.Blank
import RowScope.Value

namespace RowScope

/-- What an application may choose. -/
structure Settings where
  -- The text in the place of a value that is missing.
  missing : String
  -- Capabilities whose holders see every row.
  privileged : NameSet
deriving DecidableEq

namespace Settings

/-- The settings unless a document changes them. -/
def standard : Settings where
  missing := "-1"
  privileged := .ofList ["super-admin", "tenant-admin"]

/-- The value in the place of an empty set of ids: the text for a missing value, as an
integer if it is one. -/
def sentinel (s : Settings) : Value :=
  match readInt64? (Blank.trim s.missing.toList) with
  | some n => .int n
  | none => .text s.missing

/-- Settings from JSON; what is left out is standard. -/
def ofJson (j : Json) : Except DecodeError Settings := do
  let field ← j.fields ["default_placeholder", "privileged_capabilities"]
  return {
    missing := ← Json.optional field "default_placeholder" standard.missing Json.asText
    privileged := ← Json.optional field "privileged_capabilities" standard.privileged
      fun j => (j.listOf Json.asText).map .ofList }

def toJson (s : Settings) : Json :=
  .obj [("default_placeholder", .str s.missing),
    ("privileged_capabilities", .ofTexts s.privileged.names)]

/-- Settings from the text of a document. -/
def read (text : String) : Except PolicyError Settings :=
  (Json.readText ofJson text).mapError .document

end Settings

end RowScope
