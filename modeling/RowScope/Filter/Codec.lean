/-
Conditions and values as JSON.

A value is plain JSON: its kind is read off the shape, and an empty list is a list
of integers.  A condition is an object with one member, named for the kind of the
condition.

* `Value.toJson`, `Value.ofJson` — values written and read;
* `Filter.toJson`, `Filter.ofJson` — conditions written and read.
-/
import RowScope.Filter.Basic
import RowScope.Json.Basic

namespace RowScope

namespace Value

def toJson : Value → Json
  | null => .null
  | bool b => .bool b
  | int n => .ofInt64 n
  | float x => .float x
  | text s => .str s
  | ints ns => .arr (ns.map .ofInt64)
  | texts ss => .ofTexts ss

/-- A list of integers, or a list of texts. -/
def ofItems (items : List Json) : Except DecodeError Value :=
  match items.mapM Json.asInt64 with
  | .ok ns => .ok (ints ns)
  | .error _ =>
    match items.mapM Json.asText with
    | .ok ss => .ok (texts ss)
    | .error _ => .error (.wrongKind "a value")

/-- A value from JSON.  A whole number beyond 64 bits is a double. -/
def ofJson : Json → Except DecodeError Value
  | .null => .ok null
  | .bool b => .ok (bool b)
  | .int n =>
    match toInt64? n with
    | some n => .ok (int n)
    | none => .ok (float (Float.ofInt n))
  | .float x => .ok (float x)
  | .str s => .ok (text s)
  | .arr items => ofItems items
  | _ => .error (.wrongKind "a value")

end Value

namespace Comparison

def name : Comparison → String
  | eq => "Eq"
  | ne => "Ne"
  | lt => "Lt"
  | le => "Le"
  | gt => "Gt"
  | ge => "Ge"

/-- The comparison of a name. -/
def ofName? (s : String) : Option Comparison :=
  [eq, ne, lt, le, gt, ge].find? fun c => c.name == s

def ofJson (j : Json) : Except DecodeError Comparison := do
  let name ← j.alternative
  match ofName? name with
  | some c => return c
  | none => throw (.unknownName name)

end Comparison

namespace Join

def name : Join → String
  | and => "and"
  | or => "or"

def ofJson (j : Json) : Except DecodeError Join := do
  match ← j.alternative with
  | "and" => return and
  | "or" => return or
  | name => throw (.unknownName name)

end Join

namespace Operand

def toJson : Operand → Json
  | column name => .obj [("Column", .str name)]
  | literal v => .obj [("Literal", v.toJson)]

def ofJson : Json → Except DecodeError Operand
  | .obj [("Column", j)] => j.asText.map column
  | .obj [("Literal", j)] => (Value.ofJson j).map literal
  | _ => .error (.wrongKind "an operand")

end Operand

namespace Filter

/-- A comparison, the membership in a set, a null test or a pattern from JSON. -/
def ofPredicateJson (name : String) (j : Json) : Except DecodeError Filter := do
  match name with
  | "Compare" =>
    let field ← j.objectFields ["left", "op", "right"]
    let left ← Json.required field "left" Operand.ofJson
    let op ← Json.required field "op" Comparison.ofJson
    let right ← Json.required field "right" Operand.ofJson
    return compare left op right
  | "In" =>
    let field ← j.objectFields ["operand", "values", "negated"]
    let operand ← Json.required field "operand" Operand.ofJson
    let values ← Json.required field "values" (Json.listOf Operand.ofJson)
    let negated ← Json.required field "negated" Json.asBool
    return member operand values negated
  | "IsNull" =>
    let field ← j.objectFields ["operand", "negated"]
    let operand ← Json.required field "operand" Operand.ofJson
    let negated ← Json.required field "negated" Json.asBool
    return isNull operand negated
  | "Like" =>
    let field ← j.objectFields ["operand", "pattern", "negated"]
    let operand ← Json.required field "operand" Operand.ofJson
    let pattern ← Json.required field "pattern" Json.asText
    let negated ← Json.required field "negated" Json.asBool
    return like operand pattern negated
  | name => throw (.unknownName name)

mutual

def toJson : Filter → Json
  | compare l c r =>
    .obj [("Compare", .obj [("left", l.toJson), ("op", .str c.name), ("right", r.toJson)])]
  | member o vs negated =>
    .obj [("In", .obj [("operand", o.toJson), ("values", .arr (vs.map Operand.toJson)),
      ("negated", .bool negated)])]
  | isNull o negated => .obj [("IsNull", .obj [("operand", o.toJson), ("negated", .bool negated)])]
  | like o pattern negated =>
    .obj [("Like", .obj [("operand", o.toJson), ("pattern", .str pattern),
      ("negated", .bool negated)])]
  | and fs => .obj [("And", .arr (toJsonList fs))]
  | or fs => .obj [("Or", .arr (toJsonList fs))]
  | not f => .obj [("Not", toJson f)]
  | group f => .obj [("Group", toJson f)]
  | always => .str "True"
  | never => .str "False"

/-- Some conditions as JSON. -/
def toJsonList : List Filter → List Json
  | [] => []
  | f :: fs => toJson f :: toJsonList fs

end

mutual

def ofJson : Json → Except DecodeError Filter
  | .str "True" => .ok always
  | .str "False" => .ok never
  | .obj [("True", .null)] => .ok always
  | .obj [("False", .null)] => .ok never
  | .obj [("And", .arr js)] => (ofJsonList js).map and
  | .obj [("Or", .arr js)] => (ofJsonList js).map or
  | .obj [("Not", j)] => (ofJson j).map not
  | .obj [("Group", j)] => (ofJson j).map group
  | .obj [(name, j)] => ofPredicateJson name j
  | _ => .error (.wrongKind "a condition")

/-- Some conditions from JSON. -/
def ofJsonList : List Json → Except DecodeError (List Filter)
  | [] => .ok []
  | j :: js => do
    let f ← ofJson j
    let fs ← ofJsonList js
    return f :: fs

end

end Filter

end RowScope
