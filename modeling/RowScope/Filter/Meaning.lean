/-
The meaning of a condition.

* `Row.value` — the value of a column, found by its full or its bare name;
* `Filter.truth` — the outcome of a condition on a row;
* `Filter.admits` — whether a row passes the condition.
-/
import RowScope.Filter.Basic
import RowScope.Filter.Pattern
import RowScope.Text.Name

namespace RowScope

/-- The columns of a row with their values. -/
abbrev Row := List (String × Value)

/-- The value of a column: that of the first column of this name, else that of
the first column of the bare name, else null. -/
def Row.value (row : Row) (column : String) : Value :=
  ((row.lookup column).or (row.lookup (Name.bare column))).getD .null

/-- The value of an operand on a row. -/
def Operand.value (row : Row) : Operand → Value
  | column name => row.value name
  | literal v => v

/-- The outcome of comparing two values.  It is unknown with a null.  Values that
cannot be compared are different and in no order. -/
def Comparison.truth (c : Comparison) (a b : Value) : Truth :=
  if a.isNull || b.isNull then .unknown
  else match c with
    | eq => a.equals b
    | ne => (a.equals b).not
    | lt => .ofOption ((a.order? b).map Ordering.isLT)
    | le => .ofOption ((a.order? b).map Ordering.isLE)
    | gt => .ofOption ((a.order? b).map Ordering.isGT)
    | ge => .ofOption ((a.order? b).map Ordering.isGE)

/-- The outcome of looking for a value among others. -/
def Value.among (v : Value) (candidates : List Value) : Truth :=
  if v.isNull then .unknown else .any (candidates.map v.equals)

/-- The outcome of matching a value, as text, with a pattern. -/
def Value.matchesPattern (v : Value) (pattern : String) : Truth :=
  match v with
  | null => .unknown
  | text s => .ofBool (Pattern.isMatch s.toList pattern.toList)
  | v => .ofBool (Pattern.isMatch v.sql.toList pattern.toList)

namespace Filter

mutual

/-- The outcome of a condition on a row. -/
def truth (row : Row) : Filter → Truth
  | compare l c r => c.truth (l.value row) (r.value row)
  | member o vs negated =>
    ((o.value row).among (vs.flatMap fun v => (v.value row).elements)).negateIf negated
  | isNull o negated => .ofBool ((o.value row).isNull != negated)
  | like o pattern negated => ((o.value row).matchesPattern pattern).negateIf negated
  | and fs => .all (truths row fs)
  | or fs => .any (truths row fs)
  | not f => (truth row f).not
  | group f => truth row f
  | always => .holds
  | never => .fails

/-- The outcomes of some conditions on a row. -/
def truths (row : Row) : List Filter → List Truth
  | [] => []
  | f :: fs => truth row f :: truths row fs

end

theorem truths_eq_map (row : Row) (fs : List Filter) : truths row fs = fs.map (truth row) := by
  induction fs with
  | nil => rfl
  | cons f fs ih => simp [truths, ih]

/-- Whether a row passes the condition: it holds, and is not merely unknown. -/
def admits (f : Filter) (row : Row) : Bool :=
  f.truth row == .holds

end Filter

end RowScope
