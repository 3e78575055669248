/-
Users and their roles.

* `User.bindings` — what the placeholders `user.…` stand for;
* `User.ofJson`, `User.toJson` — a user read and written.
-/
import RowScope.Ascending
import RowScope.Filter.Codec
import RowScope.Scope
import RowScope.Template.Binding

namespace RowScope

/-- A role of a user. -/
structure Role where
  id : Int64
  key : String
  scope : Scope
deriving DecidableEq

/-- The user that a statement runs for. -/
structure User where
  id : Value
  department : Option Int64
  roles : List Role
  capabilities : NameSet
  attributes : KeyMap String Value

namespace Role

def ofJson (j : Json) : Except DecodeError Role := do
  let field ← j.fields ["id", "key", "data_scope"]
  return {
    id := ← Json.required field "id" Json.asInt64
    key := ← Json.required field "key" Json.asText
    scope := ← Json.required field "data_scope" Scope.ofJson }

def toJson (r : Role) : Json :=
  .obj [("id", .ofInt64 r.id), ("key", .str r.key), ("data_scope", r.scope.toJson)]

/-- The roles without those whose id was there before. -/
def distinct (roles : List Role) : List Role :=
  roles.eraseDupsBy fun r r' => r.id == r'.id

end Role

namespace User

def holds (u : User) (capability : String) : Bool :=
  u.capabilities.contains capability

/-- The bindings of the attributes. -/
def attributeBindings (u : User) : Bindings :=
  .ofList (u.attributes.entries.map fun (name, v) => ("user." ++ name, .value v))

/-- What the placeholders of a user stand for.  The id and the department win over
attributes of the same name; a null id is no value. -/
def bindings (u : User) : Bindings :=
  let named := u.attributeBindings
  let named := if u.id.isNull then named else named.insert "user.userId" (.value u.id)
  match u.department with
  | none => named
  | some d => named.insert "user.deptId" (.value (.int d))

def ofJson (j : Json) : Except DecodeError User := do
  let field ← j.fields ["user_id", "dept_id", "roles", "capabilities", "attributes"]
  return {
    id := ← Json.required field "user_id" Value.ofJson
    department := ← Json.optional field "dept_id" none (Json.nullable Json.asInt64)
    roles := ← Json.optional field "roles" [] (Json.listOf Role.ofJson)
    capabilities := ← Json.optional field "capabilities" .empty
      fun j => (j.listOf Json.asText).map .ofList
    attributes := ← Json.optional field "attributes" .empty
      fun j => (j.membersOf Value.ofJson).map .ofList }

def toJson (u : User) : Json :=
  .obj [("user_id", u.id.toJson), ("dept_id", (u.department.map .ofInt64).getD .null),
    ("roles", .arr (u.roles.map Role.toJson)), ("capabilities", .ofTexts u.capabilities.names),
    ("attributes", .obj (u.attributes.entries.map fun (name, v) => (name, v.toJson)))]

end User

end RowScope
