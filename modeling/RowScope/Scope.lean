/-
Scopes of roles.

A role grants every row, or the rows that a template over its user, its id set and
the columns of a rule describes.

* `Scope.code`, `Scope.ofCode` — the code of a scope, written and read;
* `Scope.read` — a scope by its code or its name;
* `Scope.template?` — the template of a scope and the fragment in its place.
-/
import RowScope.Policy.Error
import RowScope.Text.Blank

namespace RowScope

/-- Which rows a role grants. -/
inductive Scope where
  -- Every row.
  | all
  -- The rows of the departments that are listed for the role.
  | custom
  -- The rows of the department of the user.
  | dept
  -- The rows of that department and the ones below it.
  | deptAndChild
  -- The rows that the user owns.
  | own
  -- The rows of the departments, and those that the user owns.
  | deptAndChildOrOwn
deriving DecidableEq

namespace Scope

/-- All scopes, in the order of their codes. -/
def list : List Scope :=
  [all, custom, dept, deptAndChild, own, deptAndChildOrOwn]

def code : Scope → String
  | all => "1"
  | custom => "2"
  | dept => "3"
  | deptAndChild => "4"
  | own => "5"
  | deptAndChildOrOwn => "6"

def name : Scope → String
  | all => "all"
  | custom => "custom"
  | dept => "dept"
  | deptAndChild => "dept_and_child"
  | own => "self"
  | deptAndChildOrOwn => "dept_and_child_or_self"

/-- The scope of a code, with white space around it. -/
def ofCode? (s : String) : Option Scope :=
  list.find? fun scope => scope.code.toList == Blank.trim s.toList

/-- The scope of a name, in any case and with white space around it. -/
def ofName? (s : String) : Option Scope :=
  list.find? fun scope => scope.name.toList == (Blank.trim s.toList).map Char.toLower

/-- The scope of a code. -/
def ofCode (s : String) : Except PolicyError Scope :=
  match ofCode? s with
  | some scope => .ok scope
  | none => .error (.unknownScope s)

/-- The scope of a code or a name. -/
def read (s : String) : Except PolicyError Scope :=
  match (ofCode? s).or (ofName? s) with
  | some scope => .ok scope
  | none => .error (.unknownScope s)

/-- The fragment in the place of a template: it grants no row. -/
def denyFragment : String := "1 = 0"

/-- The template of a scope and the fragment in its place; none for every row. -/
def template? : Scope → Option (String × String)
  | all => none
  | custom | deptAndChild => some ("$deptName IN ( $scopeIds )", denyFragment)
  | dept => some ("$deptName = $user.deptId", denyFragment)
  | own => some ("$userName = $user.userId", denyFragment)
  | deptAndChildOrOwn =>
    some ("$deptName IN ( $scopeIds ) OR $userName = $user.userId", denyFragment)

/-- Whether the scope is described by a set of ids. -/
def needsIds : Scope → Bool
  | custom | deptAndChild | deptAndChildOrOwn => true
  | _ => false

/-- A scope as JSON: its code. -/
def toJson (scope : Scope) : Json :=
  .str scope.code

/-- A scope from JSON: its code or its name. -/
def ofJson (j : Json) : Except DecodeError Scope := do
  let s ← j.asText
  (read s).mapError fun _ => .unknownName s

end Scope

end RowScope
