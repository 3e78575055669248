/-
Values of columns, literals and bound variables.

* `Value.elements` — a list counts as its elements where a set is meant;
* `Value.order?` — the order of two scalars, if they can be compared;
* `Value.equals` — equality as a condition sees it: unknown with a null;
* `Value.same` — the same value, by the comparison of doubles;
* `Value.sql` — the literal that stands for a value.
-/
import RowScope.Truth
import RowScope.Number.Decimal
import RowScope.Text.Quoted

namespace RowScope

/-- A null, a scalar, or a list of scalars of one kind. -/
inductive Value where
  | null
  | bool (b : Bool)
  | int (n : Int64)
  | float (x : Float)
  | text (s : String)
  | ints (ns : List Int64)
  | texts (ss : List String)
deriving DecidableEq

namespace Value

def isNull : Value → Bool
  | null => true
  | _ => false

def isList : Value → Bool
  | ints _ | texts _ => true
  | _ => false

/-- Whether the value is a list without elements. -/
def isEmptyList : Value → Bool
  | ints ns => ns.isEmpty
  | texts ss => ss.isEmpty
  | _ => false

/-- The truth value, if it is one. -/
def asBool? : Value → Option Bool
  | bool b => some b
  | _ => none

/-- The integer, if it is one. -/
def asInt? : Value → Option Int64
  | int n => some n
  | _ => none

/-- The text, if it is one. -/
def asText? : Value → Option String
  | text s => some s
  | _ => none

/-- The scalars that a value holds: its elements, or itself. -/
def elements : Value → List Value
  | ints ns => ns.map int
  | texts ss => ss.map text
  | v => [v]

/-- The order of two scalars of one kind, integers and doubles being one kind.
Lists and nulls have no order. -/
def order? : Value → Value → Option Ordering
  | bool a, bool b => some (compare a b)
  | int a, int b => some (compare a.toInt b.toInt)
  | float a, float b => floatOrder? a b
  | int a, float b => floatOrder? (Float.ofInt a.toInt) b
  | float a, int b => floatOrder? a (Float.ofInt b.toInt)
  | text a, text b => some (compare a b)
  | _, _ => none

/-- Equality in a condition: unknown if a side is null, and values that cannot be
compared are not equal. -/
def equals (a b : Value) : Truth :=
  if a.isNull || b.isNull then .unknown else .ofBool (a.order? b == some .eq)

/-- The same value of the same kind.  Doubles are the same when they compare
equal, so `NaN` is not the same as itself and the two zeros are the same. -/
def same : Value → Value → Bool
  | float a, float b => a == b
  | a, b => a == b

/-- The literal of a value.  A list is a sequence of literals; the empty list is
written as a null, which is in no set. -/
def sql : Value → String
  | null => "NULL"
  | bool true => "TRUE"
  | bool false => "FALSE"
  | int n => toString n.toInt
  | float x => floatLiteral x
  | text s => Quoted.literal s
  | ints ns => if ns.isEmpty then "NULL" else ", ".intercalate (ns.map fun n => toString n.toInt)
  | texts ss => if ss.isEmpty then "NULL" else ", ".intercalate (ss.map Quoted.literal)

end Value

end RowScope
