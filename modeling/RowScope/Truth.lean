/-
Three-valued truth.

A condition on a row holds, fails, or is unknown because a value it needs is
null.  A row is kept only where its condition holds.

* `Truth.and`, `Truth.or`, `Truth.not` — the connectives: `fails` absorbs a
  conjunction and `holds` a disjunction, whatever the other side is;
* `Truth.all`, `Truth.any` — the connectives of a list, with the empty
  conjunction holding and the empty disjunction failing.
-/

namespace RowScope

/-- The outcome of a condition on a row. -/
inductive Truth where
  | holds
  | fails
  | unknown
deriving DecidableEq

namespace Truth

/-- A definite outcome. -/
def ofBool : Bool → Truth
  | true => holds
  | false => fails

/-- A definite outcome, or `unknown` for none. -/
def ofOption : Option Bool → Truth
  | some b => ofBool b
  | none => unknown

/-- Negation keeps `unknown`. -/
protected def not : Truth → Truth
  | holds => fails
  | fails => holds
  | unknown => unknown

/-- Negation when `negated` is set. -/
def negateIf (negated : Bool) (t : Truth) : Truth :=
  if negated then t.not else t

/-- Conjunction. -/
protected def and : Truth → Truth → Truth
  | fails, _ => fails
  | _, fails => fails
  | holds, holds => holds
  | _, _ => unknown

/-- Disjunction. -/
protected def or : Truth → Truth → Truth
  | holds, _ => holds
  | _, holds => holds
  | fails, fails => fails
  | _, _ => unknown

/-- The conjunction of a list. -/
def all (ts : List Truth) : Truth :=
  ts.foldr Truth.and holds

/-- The disjunction of a list. -/
def any (ts : List Truth) : Truth :=
  ts.foldr Truth.or fails

@[simp] theorem all_nil : all [] = holds := rfl

@[simp] theorem all_cons (t : Truth) (ts : List Truth) : all (t :: ts) = t.and (all ts) := rfl

@[simp] theorem any_nil : any [] = fails := rfl

@[simp] theorem any_cons (t : Truth) (ts : List Truth) : any (t :: ts) = t.or (any ts) := rfl

end Truth

end RowScope
