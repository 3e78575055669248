/-
Kinds of statements.

* `Statement.word` — the word that a statement starts with;
* `Statement.join` — how the conditions of several roles are joined by default: it is
  enough for a read that one role grants a row, and a write needs every role.
-/
import RowScope.Filter.Codec

namespace RowScope

/-- The kind of a statement. -/
inductive Statement where
  | select
  | insert
  | update
  | delete
deriving DecidableEq

namespace Statement

def list : List Statement :=
  [select, insert, update, delete]

def isRead : Statement → Bool
  | select => true
  | _ => false

/-- The join of roles unless a rule says otherwise. -/
def join (s : Statement) : Join :=
  if s.isRead then .or else .and

def word : Statement → String
  | select => "SELECT"
  | insert => "INSERT"
  | update => "UPDATE"
  | delete => "DELETE"

def name : Statement → String
  | select => "select"
  | insert => "insert"
  | update => "update"
  | delete => "delete"

/-- A kind from JSON: its name. -/
def ofJson (j : Json) : Except DecodeError Statement := do
  let name ← j.alternative
  match list.find? fun s => s.name == name with
  | some s => return s
  | none => throw (.unknownName name)

end Statement

end RowScope
