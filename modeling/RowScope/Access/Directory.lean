/-
The directory of an organisation.

A directory lists departments, each below another one or on top, and the departments
that are granted to a role.

* `Directory.reach` — what can be reached from some departments, each once;
* `Directory.tree` — a department with everything below it, in ascending order;
* `Directory.resolve` — the ids of a role by its scope.

Design notes: a department may be listed several times, below different ones, and the
listing may run in circles; a search visits each department once.
-/
import RowScope.Access.Resolver

namespace RowScope

/-- A department, and the one that it belongs to. -/
structure Department where
  id : Int64
  parent : Option Int64
  name : String
deriving DecidableEq

/-- The departments that are granted to a role. -/
structure RoleRecord where
  id : Int64
  key : String
  departments : List Int64
deriving DecidableEq

/-- The departments and roles of an organisation. -/
structure Directory where
  departments : List Department
  roles : List RoleRecord
deriving DecidableEq

namespace Department

def ofJson (j : Json) : Except DecodeError Department := do
  let field ← j.fields ["id", "parent_id", "name"]
  return {
    id := ← Json.required field "id" Json.asInt64
    parent := ← Json.optional field "parent_id" none (Json.nullable Json.asInt64)
    name := ← Json.optional field "name" "" Json.asText }

def toJson (d : Department) : Json :=
  .obj [("id", .ofInt64 d.id), ("parent_id", (d.parent.map .ofInt64).getD .null),
    ("name", .str d.name)]

end Department

namespace RoleRecord

def ofJson (j : Json) : Except DecodeError RoleRecord := do
  let field ← j.fields ["id", "key", "dept_ids"]
  return {
    id := ← Json.required field "id" Json.asInt64
    key := ← Json.optional field "key" "" Json.asText
    departments := ← Json.optional field "dept_ids" [] (Json.listOf Json.asInt64) }

def toJson (r : RoleRecord) : Json :=
  .obj [("id", .ofInt64 r.id), ("key", .str r.key),
    ("dept_ids", .arr (r.departments.map .ofInt64))]

end RoleRecord

namespace Directory

def ofJson (j : Json) : Except DecodeError Directory := do
  let field ← j.fields ["departments", "roles"]
  return {
    departments := ← Json.optional field "departments" [] (Json.listOf Department.ofJson)
    roles := ← Json.optional field "roles" [] (Json.listOf RoleRecord.ofJson) }

def toJson (d : Directory) : Json :=
  .obj [("departments", .arr (d.departments.map Department.toJson)),
    ("roles", .arr (d.roles.map RoleRecord.toJson))]

def children (d : Directory) (parent : Int64) : List Int64 :=
  (d.departments.filter fun x => x.parent == some parent).map Department.id

/-- What can be reached from the pending departments through those not seen yet. -/
def reach (next : Int64 → List Int64) (unseen pending : List Int64) : List Int64 :=
  match pending with
  | [] => []
  | x :: rest =>
    if h : x ∈ unseen then
      have : (unseen.filter (· != x)).length < unseen.length :=
        List.length_filter_lt_length_iff_exists.2 ⟨x, h, by simp⟩
      x :: reach next (unseen.filter (· != x)) (next x ++ rest)
    else reach next unseen rest
termination_by (unseen.length, pending.length)

/-- A department with everything below it; nothing if it is not listed. -/
def tree (d : Directory) (root : Int64) : List Int64 :=
  ascending (reach d.children (d.departments.map Department.id) [root])

/-- The departments that are granted to a role; of several records the last counts. -/
def granted? (d : Directory) (role : Int64) : Option (List Int64) :=
  (d.roles.reverse.find? fun r => r.id == role).map RoleRecord.departments

/-- Ids as values, or a sentinel in the place of none. -/
def orSentinel (sentinel : Value) (ids : List Int64) : List Value :=
  if ids.isEmpty then [sentinel] else ids.map .int

/-- The ids of a role by its scope. -/
def resolve (d : Directory) (sentinel : Value) (role : Role) (user : User) :
    Except ResolveError Resolution :=
  match role.scope with
  | .custom =>
    match d.granted? role.id with
    | none => .error (.unknownRole role.key)
    | some ids => .ok ⟨role.scope, orSentinel sentinel ids⟩
  | .deptAndChild | .deptAndChildOrOwn =>
    .ok ⟨role.scope, orSentinel sentinel ((user.department.map d.tree).getD [])⟩
  | .all | .dept | .own => .ok ⟨role.scope, []⟩

end Directory

end RowScope
