/-
Conditions on a row.

A `Filter` is the condition of a statement as a tree.  A group keeps the
parentheses that were written around a condition, so that joined conditions are
never merged into one list by accident.

* `Filter.join?` — several conditions as one;
* `Filter.conjoin` — a condition added to another one;
* `Filter.same` — the same tree, by `Value.same` on its literals.
-/
import RowScope.Value

namespace RowScope

/-- How two values are compared. -/
inductive Comparison where
  | eq
  | ne
  | lt
  | le
  | gt
  | ge
deriving DecidableEq

/-- How several conditions are joined. -/
inductive Join where
  | and
  | or
deriving DecidableEq

/-- A side of a condition: a column, possibly qualified, or a literal. -/
inductive Operand where
  | column (name : String)
  | literal (value : Value)
deriving DecidableEq

/-- A condition on a row. -/
inductive Filter where
  -- Two operands compared.
  | compare (left : Operand) (comparison : Comparison) (right : Operand)
  -- An operand that is in a set, or is not.
  | member (operand : Operand) (values : List Operand) (negated : Bool)
  -- An operand that is null, or is not.
  | isNull (operand : Operand) (negated : Bool)
  -- An operand that matches a pattern, or does not.
  | like (operand : Operand) (pattern : String) (negated : Bool)
  -- Every condition of a list.
  | and (conditions : List Filter)
  -- Some condition of a list.
  | or (conditions : List Filter)
  -- The opposite of a condition.
  | not (condition : Filter)
  -- A condition in parentheses.
  | group (condition : Filter)
  -- The condition that every row meets.
  | always
  -- The condition that no row meets.
  | never

namespace Operand

/-- The same operand, by `Value.same` on literals. -/
def same : Operand → Operand → Bool
  | column a, column b => a == b
  | literal a, literal b => a.same b
  | _, _ => false

/-- The same operands in the same order. -/
def sameList : List Operand → List Operand → Bool
  | [], [] => true
  | a :: as, b :: bs => a.same b && sameList as bs
  | _, _ => false

end Operand

namespace Filter

/-- A column compared with a literal. -/
def compareColumn (column : String) (c : Comparison) (value : Value) : Filter :=
  compare (.column column) c (.literal value)

/-- A column that is one of some values. -/
def memberOf (column : String) (values : List Value) : Filter :=
  member (.column column) (values.map .literal) false

/-- Conditions under a join. -/
def joined : Join → List Filter → Filter
  | .and, fs => and fs
  | .or, fs => or fs

/-- Conditions under a join; one condition stands for itself, and no condition
gives none. -/
def join? (j : Join) : List Filter → Option Filter
  | [] => none
  | [f] => some f
  | fs => some (joined j fs)

/-- A condition added to the one that a statement has, if it has one. -/
def conjoin (existing : Option Filter) (f : Filter) : Filter :=
  match existing with
  | none => f
  | some e => and [e, f]

def isGroup : Filter → Bool
  | group _ => true
  | _ => false

def isOr : Filter → Bool
  | or _ => true
  | _ => false

def isJoined : Filter → Bool
  | and _ | or _ => true
  | _ => false

mutual

/-- The same tree, by `Value.same` on literals. -/
def same : Filter → Filter → Bool
  | compare l c r, compare l' c' r' => l.same l' && c == c' && r.same r'
  | member o vs n, member o' vs' n' => o.same o' && Operand.sameList vs vs' && n == n'
  | isNull o n, isNull o' n' => o.same o' && n == n'
  | like o p n, like o' p' n' => o.same o' && p == p' && n == n'
  | and fs, and gs => sameList fs gs
  | or fs, or gs => sameList fs gs
  | not f, not g => same f g
  | group f, group g => same f g
  | always, always => true
  | never, never => true
  | _, _ => false

/-- The same trees in the same order. -/
def sameList : List Filter → List Filter → Bool
  | [], [] => true
  | f :: fs, g :: gs => same f g && sameList fs gs
  | _, _ => false

end

/-- The conditions without those that were there before. -/
def distinct (fs : List Filter) : List Filter :=
  fs.eraseDupsBy same

end Filter

end RowScope
