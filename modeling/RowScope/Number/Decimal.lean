/-
Doubles as decimal text.

A finite double is `mantissa · 2 ^ exponent`.  Two texts are made of it, both
positional, never with a power of ten:

* `floatText` — the fewest digits that read back as the same double, the
  nearest such digits, and the upper one of two equally near;
* `floatLiteral` — a whole number with all its digits and `.0`, any other number
  as in `floatText`.

Design notes: `Dyadic` holds the double exactly, so the search for the fewest
digits compares natural numbers only.  The reals that round to a double form an
interval around it, with its ends when the mantissa is even; on the grid of
`n`-digit decimals only the two neighbours of the double can be the nearest point
of that interval.
-/

namespace RowScope

/-- The number `mantissa · 2 ^ exponent`.  At a power of two the next double
below is half as far as the next one above: `narrow` says so. -/
structure Dyadic where
  mantissa : Nat
  exponent : Int
  narrow : Bool

/-- The number `digits · 10 ^ exponent`. -/
structure Decimal where
  digits : Nat
  exponent : Int

/-- The magnitude of the finite double with the given bits. -/
def Dyadic.ofBits (bits : UInt64) : Dyadic :=
  let fraction : Nat := bits.toNat % Nat.pow 2 52
  let exponent : Nat := bits.toNat / Nat.pow 2 52 % Nat.pow 2 11
  if exponent = 0 then ⟨fraction, -1074, false⟩
  else ⟨fraction + Nat.pow 2 52, (exponent : Int) - 1075, fraction == 0 && exponent != 1⟩

namespace Dyadic

/-- Whether the number is whole. -/
def isWhole (x : Dyadic) : Bool :=
  x.mantissa % Nat.pow 2 (-x.exponent).toNat == 0

/-- The whole part of the number. -/
def whole (x : Dyadic) : Nat :=
  x.mantissa * Nat.pow 2 x.exponent.toNat / Nat.pow 2 (-x.exponent).toNat

/-- The whole part of the number divided by `10 ^ e`. -/
def floorAt (x : Dyadic) (e : Int) : Nat :=
  x.mantissa * Nat.pow 2 x.exponent.toNat * Nat.pow 10 (-e).toNat
    / (Nat.pow 2 (-x.exponent).toNat * Nat.pow 10 e.toNat)

/-- Both `d · 10 ^ e` and `n · 2 ^ (x.exponent - 2)`, brought to one unit. -/
def onOneScale (x : Dyadic) (d : Nat) (e : Int) (n : Nat) : Nat × Nat :=
  let q := x.exponent - 2
  (d * Nat.pow 10 e.toNat * Nat.pow 2 (-q).toNat, n * Nat.pow 2 q.toNat * Nat.pow 10 (-e).toNat)

/-- Whether `d · 10 ^ e` reads back as the number. -/
def readsBack (x : Dyadic) (e : Int) (d : Nat) : Bool :=
  let lower := x.onOneScale d e (4 * x.mantissa - if x.narrow then 1 else 2)
  let upper := x.onOneScale d e (4 * x.mantissa + 2)
  if x.mantissa % 2 = 0 then lower.2 ≤ lower.1 && upper.1 ≤ upper.2
  else lower.2 < lower.1 && upper.1 < upper.2

/-- Whether the number is nearer to `d · 10 ^ e` than to `(d + 1) · 10 ^ e`. -/
def isNearerBelow (x : Dyadic) (e : Int) (d : Nat) : Bool :=
  let middle := x.onOneScale (2 * d + 1) e (8 * x.mantissa)
  middle.2 < middle.1

/-- The nearest multiple of `10 ^ e` that reads back as the number. -/
def onGrid? (x : Dyadic) (e : Int) : Option Decimal :=
  let d := x.floorAt e
  match x.readsBack e d, x.readsBack e (d + 1) with
  | true, true => some ⟨if x.isNearerBelow e d then d else d + 1, e⟩
  | true, false => some ⟨d, e⟩
  | false, true => some ⟨d + 1, e⟩
  | false, false => none

/-- The number of decimal places before the point; not positive for a number
below one tenth.  No double is below `10 ^ -400`. -/
def places (x : Dyadic) : Int :=
  (Nat.toDigits 10 (x.floorAt (-400))).length - 400

/-- The decimal of fewest digits that reads back as the number.  Seventeen digits
are always enough. -/
def shortest (x : Dyadic) : Decimal :=
  ((List.range 17).findSome? fun n => x.onGrid? (x.places - (n + 1 : Nat))).getD ⟨0, 0⟩

end Dyadic

namespace Decimal

/-- The digits of the number and its exponent without the zeros at the end. -/
def trim (d : Decimal) : List Char × Int :=
  let ds := Nat.toDigits 10 d.digits
  let kept := (ds.reverse.dropWhile (· == '0')).reverse
  (kept, d.exponent + (ds.length - kept.length : Nat))

/-- Positional notation: a point only where digits follow it. -/
def text (d : Decimal) : List Char :=
  let (ds, e) := d.trim
  let places := (-e).toNat
  if 0 ≤ e then ds ++ List.replicate e.toNat '0'
  else if ds.length ≤ places then
    '0' :: '.' :: List.replicate (places - ds.length) '0' ++ ds
  else ds.take (ds.length - places) ++ '.' :: ds.drop (ds.length - places)

end Decimal

/-- The text of a double by the text of its magnitude, for finite doubles other
than zero, and the text of zero. -/
def floatTextBy (zero : String) (magnitude : Dyadic → List Char) (x : Float) : String :=
  if x.isNaN then "NaN"
  else
    let sign := if x.toBits < 0x8000000000000000 then "" else "-"
    if x.isInf then sign ++ "inf"
    else if x == 0 then sign ++ zero
    else sign ++ String.ofList (magnitude (Dyadic.ofBits x.toBits))

/-- The fewest digits that read back, without a point for whole numbers. -/
def floatText (x : Float) : String :=
  floatTextBy "0" (fun d => d.shortest.text) x

/-- A number with a point: all digits of a whole number, the fewest of any other. -/
def floatLiteral (x : Float) : String :=
  floatTextBy "0.0"
    (fun d => if d.isWhole then Nat.toDigits 10 d.whole ++ ['.', '0'] else d.shortest.text) x

/-- The order of two doubles; none if one of them is not a number. -/
def floatOrder? (x y : Float) : Option Ordering :=
  if x < y then some .lt
  else if x == y then some .eq
  else if y < x then some .gt
  else none

/-- The double nearest to the decimal that is written with these digits before
and after the point. -/
def readFloat (negative : Bool) (whole fraction : List Char) : Float :=
  let x := Float.ofScientific (Nat.ofDigitChars 10 (whole ++ fraction) 0) true fraction.length
  if negative then -x else x

end RowScope
