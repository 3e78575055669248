/-
Whole numbers as text.

* `toInt64?` — the 64-bit integer with a given value, if there is one;
* `readInt64?` — a whole text read as a 64-bit integer with an optional sign;
* `digitsValue` — the value of a run of decimal digits.
-/

namespace RowScope

/-- The value of a run of decimal digits. -/
def digitsValue (ds : List Char) : Nat :=
  Nat.ofDigitChars 10 ds 0

/-- The 64-bit integer of value `n`; none outside the range. -/
def toInt64? (n : Int) : Option Int64 :=
  if Int64.minValue.toInt ≤ n ∧ n ≤ Int64.maxValue.toInt then some (Int64.ofInt n) else none

/-- A number with its sign in front. -/
def signed (negative : Bool) (n : Nat) : Int :=
  if negative then -(n : Int) else n

/-- A text read as a 64-bit integer: decimal digits, at least one, after an
optional sign. -/
def readInt64? (cs : List Char) : Option Int64 :=
  match cs with
  | '-' :: ds => unsigned true ds
  | '+' :: ds => unsigned false ds
  | ds => unsigned false ds
where
  unsigned (negative : Bool) (ds : List Char) : Option Int64 :=
    if ds.isEmpty || !ds.all Char.isDigit then none
    else toInt64? (signed negative (digitsValue ds))

end RowScope
