/-
JSON values and how records are read from them.

* `Json` — a value as it was written: members in order, repeated names kept, whole
  numbers apart from doubles;
* `Json.objectFields`, `Json.fields` — the members of a record, written as an object, or
  also as an array;
* `Json.asInt64`, `Json.asText`, `Json.listOf`, … — readers of plain members.
-/
import RowScope.Number.Numeral

namespace RowScope

/-- A JSON value. -/
inductive Json where
  | null
  | bool (b : Bool)
  | int (n : Int)
  | float (x : Float)
  | str (s : String)
  | arr (items : List Json)
  | obj (members : List (String × Json))
  -- Well-formed text without a value, such as half of a surrogate pair or a number
  -- beyond the doubles.  It can be skipped and not read.
  | unreadable

/-- Why a value is not what was expected. -/
inductive DecodeError where
  -- The text is not one JSON value.
  | notJson
  -- The value is not of the expected kind.
  | wrongKind (expected : String)
  -- A member is missing.
  | missing (field : String)
  -- A member is given twice.
  | repeated (field : String)
  -- An array has more elements than the record has members.
  | tooLong
  -- A name is none of the expected ones.
  | unknownName (name : String)
deriving DecidableEq

namespace DecodeError

def message : DecodeError → String
  | notJson => "not a JSON document"
  | wrongKind expected => "expected " ++ expected
  | missing field => "missing field '" ++ field ++ "'"
  | repeated field => "duplicate field '" ++ field ++ "'"
  | tooLong => "too many elements"
  | unknownName name => "unknown name '" ++ name ++ "'"

end DecodeError

namespace Json

/-- The first of some names that is given more than once. -/
def repeated? (names : List String) (members : List (String × Json)) : Option String :=
  names.find? fun name => 1 < (members.filter fun m => m.1 == name).length

/-- The members of an object with the given member names.  It may have other members
too, but none of the given ones twice. -/
def objectFields (names : List String) : Json → Except DecodeError (String → Option Json)
  | obj members =>
    match repeated? names members with
    | some name => .error (.repeated name)
    | none => .ok fun name => members.lookup name
  | _ => .error (.wrongKind "an object")

/-- The members of a record with the given member names: an object, or an array that
gives the members in order and may be shorter. -/
def fields (names : List String) : Json → Except DecodeError (String → Option Json)
  | arr items =>
    if names.length < items.length then .error .tooLong
    else .ok fun name => (names.zip items).lookup name
  | j => j.objectFields names

/-- A member that must be given. -/
def required {α : Type} (field : String → Option Json) (name : String)
    (read : Json → Except DecodeError α) : Except DecodeError α :=
  match field name with
  | some j => read j
  | none => .error (.missing name)

/-- A member that may be left out. -/
def optional {α : Type} (field : String → Option Json) (name : String) (default : α)
    (read : Json → Except DecodeError α) : Except DecodeError α :=
  match field name with
  | some j => read j
  | none => .ok default

/-- A text. -/
def asText : Json → Except DecodeError String
  | str s => .ok s
  | _ => .error (.wrongKind "a string")

/-- A truth value. -/
def asBool : Json → Except DecodeError Bool
  | bool b => .ok b
  | _ => .error (.wrongKind "a boolean")

/-- An integer of 64 bits. -/
def asInt64 : Json → Except DecodeError Int64
  | int n =>
    match toInt64? n with
    | some n => .ok n
    | none => .error (.wrongKind "a 64-bit integer")
  | _ => .error (.wrongKind "a 64-bit integer")

/-- A list. -/
def listOf {α : Type} (read : Json → Except DecodeError α) : Json → Except DecodeError (List α)
  | arr items => items.mapM read
  | _ => .error (.wrongKind "an array")

/-- A value, or null for none. -/
def nullable {α : Type} (read : Json → Except DecodeError α) :
    Json → Except DecodeError (Option α)
  | null => .ok none
  | j => (read j).map some

/-- A member per name; of members with one name the last counts, but all are read. -/
def membersOf {α : Type} (read : Json → Except DecodeError α) :
    Json → Except DecodeError (List (String × α))
  | obj members => members.mapM fun (name, j) => (read j).map (name, ·)
  | _ => .error (.wrongKind "an object")

/-- The name of an alternative without content: a text, or an object that gives
null for it. -/
def alternative : Json → Except DecodeError String
  | str s => .ok s
  | obj [(name, null)] => .ok name
  | _ => .error (.wrongKind "a name")

/-- A list of texts. -/
def ofTexts (ss : List String) : Json :=
  arr (ss.map str)

/-- A text, or null for none. -/
def ofText? (s : Option String) : Json :=
  (s.map str).getD null

/-- An integer of 64 bits. -/
def ofInt64 (n : Int64) : Json :=
  int n.toInt

end Json

end RowScope
