/-
Reading JSON text.

A text is cut into marks first — brackets, commas, colons and scalars — and the
marks are then read by a machine with a stack of the open arrays and objects.

* `Json.parse?` — the value that a whole text is;
* `JsonText.string?` — the text between two quotes with its escapes resolved;
* `JsonText.number` — the value of a number.

Design notes: a whole number within 64 bits is an integer, and `-0` is not one.  Of
any other number the leading digits that fit in 64 bits are kept, and the double
nearest to them is multiplied or divided once by a power of ten; so such a number
may differ in its last bit from the nearest double.
-/
import RowScope.Json.Basic

namespace RowScope

namespace JsonText

/-- A mark of a JSON text.  A string that has no value is `text none`. -/
inductive Mark where
  | openArr
  | closeArr
  | openObj
  | closeObj
  | comma
  | colon
  | text (s : Option String)
  | scalar (j : Json)

def isBlank (c : Char) : Bool :=
  c == ' ' || c == '\t' || c == '\n' || c == '\r'

/-! ### Strings -/

/-- A character, or a code unit that was written as an escape. -/
inductive Piece where
  | char (c : Char)
  | unit (n : Nat)

/-- The value of a hexadecimal digit. -/
def hexDigit? (c : Char) : Option Nat :=
  if c.isDigit then some (c.toNat - '0'.toNat)
  else if 'a' ≤ c && c ≤ 'f' then some (c.toNat - 'a'.toNat + 10)
  else if 'A' ≤ c && c ≤ 'F' then some (c.toNat - 'A'.toNat + 10)
  else none

/-- The value of some hexadecimal digits. -/
def hexValue? (ds : List Char) : Option Nat :=
  ds.foldlM (fun n d => (hexDigit? d).map (16 * n + ·)) 0

/-- The character that an escape of one letter stands for. -/
def escape? : Char → Option Char
  | '"' => some '"'
  | '\\' => some '\\'
  | '/' => some '/'
  | 'b' => some '\x08'
  | 'f' => some '\x0c'
  | 'n' => some '\n'
  | 'r' => some '\r'
  | 't' => some '\t'
  | _ => none

/-- The pieces of a string after its opening quote, and the text after the closing
quote; none if the string is malformed. -/
def pieces? : List Char → Option (List Piece × List Char)
  | [] => none
  | '"' :: cs => some ([], cs)
  | '\\' :: 'u' :: a :: b :: c :: d :: cs => do
    let n ← hexValue? [a, b, c, d]
    let (ps, rest) ← pieces? cs
    return (.unit n :: ps, rest)
  | '\\' :: e :: cs => do
    let c ← escape? e
    let (ps, rest) ← pieces? cs
    return (.char c :: ps, rest)
  | c :: cs =>
    if c.toNat < 32 then none
    else do
      let (ps, rest) ← pieces? cs
      return (.char c :: ps, rest)

/-- The characters of some pieces.  Two code units that are a surrogate pair make
one character; a surrogate without its partner makes none. -/
def characters? : List Piece → Option (List Char)
  | [] => some []
  | .char c :: ps => (characters? ps).map (c :: ·)
  | .unit m :: .unit n :: ps =>
    if 0xd800 ≤ m ∧ m < 0xdc00 then
      if 0xdc00 ≤ n ∧ n < 0xe000 then
        (characters? ps).map (Char.ofNat (0x10000 + (m - 0xd800) * 0x400 + (n - 0xdc00)) :: ·)
      else none
    else if 0xdc00 ≤ m ∧ m < 0xe000 then none
    else (characters? (.unit n :: ps)).map (Char.ofNat m :: ·)
  | .unit m :: ps =>
    if 0xd800 ≤ m ∧ m < 0xe000 then none else (characters? ps).map (Char.ofNat m :: ·)

/-- A string after its opening quote, and the text after the closing quote. -/
def string? (cs : List Char) : Option (Option String × List Char) :=
  (pieces? cs).map fun (ps, rest) => ((characters? ps).map String.ofList, rest)

/-! ### Numbers -/

/-- The largest integer that is kept exactly. -/
def wordLimit : Nat := UInt64.size

/-- Leading digits as long as their value fits in 64 bits, and how many digits are
left over. -/
def leadingDigits (n : Nat) : List Char → Nat × Nat
  | [] => (n, 0)
  | d :: ds =>
    let m := 10 * n + (d.toNat - '0'.toNat)
    if m < wordLimit then leadingDigits m ds else (n, (d :: ds).length)

/-- The double nearest to `n`, multiplied or divided by powers of ten; none beyond
the doubles. -/
def scaled? (n : Nat) (exponent : Int) : Option Float :=
  if 0 ≤ exponent then
    if exponent ≤ 308 then
      let x := Float.ofNat n * Float.ofScientific 1 false exponent.toNat
      if x.isInf then none else some x
    else if n = 0 then some 0 else none
  else some (lower (Float.ofNat n) (-exponent).toNat)
where
  lower (x : Float) (places : Nat) : Float :=
    if _h : places ≤ 308 then x / Float.ofScientific 1 false places
    else if x == 0 then x
    else lower (x / Float.ofScientific 1 false 308) (places - 308)
  termination_by places

/-- The value of a number that is written with a fraction, with an exponent, or with
too many digits. -/
def decimal (negative : Bool) (whole fraction : List Char) (exponent : Int) : Json :=
  let (n, dropped) := leadingDigits 0 whole
  let (n, left) := leadingDigits n fraction
  let places : Int := (dropped : Int) - (fraction.length - left : Nat)
  match scaled? n (places + exponent) with
  | some x => .float (if negative then -x else x)
  | none => .unreadable

/-- The value of a whole number. -/
def integer (negative : Bool) (digits : List Char) : Json :=
  let n := digitsValue digits
  if !negative then
    if n < wordLimit then .int n else decimal false digits [] 0
  else if 0 < n ∧ Int64.minValue.toInt ≤ -(n : Int) then .int (-(n : Int))
  else decimal true digits [] 0

/-- The exponent of a number, and the text after it; none if it is malformed. -/
def exponent? : List Char → Option (Option Int × List Char)
  | e :: cs =>
    if e = 'e' ∨ e = 'E' then
      let (negative, ds) := match cs with
        | '-' :: ds => (true, ds)
        | '+' :: ds => (false, ds)
        | ds => (false, ds)
      let digits := ds.takeWhile Char.isDigit
      if digits.isEmpty then none
      else some (some (signed negative (digitsValue digits)), ds.dropWhile Char.isDigit)
    else some (none, e :: cs)
  | [] => some (none, [])

/-- The fraction of a number, and the text after it; none if it is malformed. -/
def fraction? : List Char → Option (List Char × List Char)
  | '.' :: cs =>
    let digits := cs.takeWhile Char.isDigit
    if digits.isEmpty then none else some (digits, cs.dropWhile Char.isDigit)
  | cs => some ([], cs)

/-- A number after its sign, and the text after it. -/
def number (negative : Bool) (cs : List Char) : Option (Json × List Char) := do
  let digits := cs.takeWhile Char.isDigit
  if digits.isEmpty || (digits.head? == some '0' && digits.length != 1) then none
  let (fraction, cs) ← fraction? (cs.dropWhile Char.isDigit)
  let (exponent, cs) ← exponent? cs
  match fraction, exponent with
  | [], none => return (integer negative digits, cs)
  | fraction, exponent => return (decimal negative digits fraction (exponent.getD 0), cs)

/-! ### Marks -/

/-- The first mark of a text without leading blanks, and the text after it. -/
def first? (c : Char) (cs : List Char) : Option (Mark × List Char) :=
  match c, cs with
  | '[', cs => some (.openArr, cs)
  | ']', cs => some (.closeArr, cs)
  | '{', cs => some (.openObj, cs)
  | '}', cs => some (.closeObj, cs)
  | ',', cs => some (.comma, cs)
  | ':', cs => some (.colon, cs)
  | '"', cs => (string? cs).map fun (s, rest) => (.text s, rest)
  | 'n', 'u' :: 'l' :: 'l' :: cs => some (.scalar .null, cs)
  | 't', 'r' :: 'u' :: 'e' :: cs => some (.scalar (.bool true), cs)
  | 'f', 'a' :: 'l' :: 's' :: 'e' :: cs => some (.scalar (.bool false), cs)
  | '-', cs => (number true cs).map fun (j, rest) => (.scalar j, rest)
  | c, cs => (number false (c :: cs)).map fun (j, rest) => (.scalar j, rest)

/-- The marks of a text; none if a part of it is no mark. -/
def marks? (cs : List Char) : Option (List Mark) :=
  match cs with
  | [] => some []
  | c :: cs =>
    if isBlank c then marks? cs
    else
      match first? c cs with
      | none => none
      | some (m, rest) =>
        if rest.length ≤ cs.length then (marks? rest).map (m :: ·) else none
termination_by cs.length

/-! ### Values -/

/-- An open array or object with what it holds so far. -/
inductive Frame where
  | arr (items : List Json)
  | obj (members : List (Option String × Json))
  -- An object after the name of a member.
  | member (members : List (Option String × Json)) (name : Option String)

/-- What the next mark may be. -/
inductive Expecting where
  -- A value.
  | value
  -- The first element of an array, or its end.
  | firstItem
  -- The first member of an object, or its end.
  | firstMember
  -- A member of an object.
  | member
  -- The colon after the name of a member.
  | colon
  -- A comma, or the end of what is open.
  | next
  -- The value is complete.
  | done (j : Json)

/-- A text read in part. -/
structure State where
  frames : List Frame
  expecting : Expecting

/-- The object with some members; a member without a name has no value. -/
def object (members : List (Option String × Json)) : Json :=
  match members.mapM fun (name, j) => name.map (·, j) with
  | some members => .obj members
  | none => .unreadable

/-- A value is complete. -/
def State.complete (frames : List Frame) (j : Json) : Option State :=
  match frames with
  | [] => some ⟨[], .done j⟩
  | .arr items :: frames => some ⟨.arr (items ++ [j]) :: frames, .next⟩
  | .member members name :: frames => some ⟨.obj (members ++ [(name, j)]) :: frames, .next⟩
  | .obj _ :: _ => none

/-- A value starts with a mark. -/
def State.stepValue (frames : List Frame) : Mark → Option State
  | .openArr => some ⟨.arr [] :: frames, .firstItem⟩
  | .openObj => some ⟨.obj [] :: frames, .firstMember⟩
  | .text s => State.complete frames ((s.map Json.str).getD .unreadable)
  | .scalar j => State.complete frames j
  | _ => none

/-- A member starts with a mark. -/
def State.stepMember (frames : List Frame) (m : Mark) : Option State :=
  match m, frames with
  | .text name, .obj members :: frames => some ⟨.member members name :: frames, .colon⟩
  | _, _ => none

/-- The state after one more mark. -/
def State.step (s : State) (m : Mark) : Option State :=
  match s.expecting, m, s.frames with
  | .value, m, frames => State.stepValue frames m
  | .firstItem, .closeArr, .arr items :: frames => State.complete frames (.arr items)
  | .firstItem, m, frames => State.stepValue frames m
  | .firstMember, .closeObj, .obj members :: frames => State.complete frames (object members)
  | .firstMember, m, frames => State.stepMember frames m
  | .member, m, frames => State.stepMember frames m
  | .colon, .colon, frames => some ⟨frames, .value⟩
  | .next, .comma, .arr items :: frames => some ⟨.arr items :: frames, .value⟩
  | .next, .comma, .obj members :: frames => some ⟨.obj members :: frames, .member⟩
  | .next, .closeArr, .arr items :: frames => State.complete frames (.arr items)
  | .next, .closeObj, .obj members :: frames => State.complete frames (object members)
  | _, _, _ => none

end JsonText

namespace Json

/-- The value that a whole text is; none if it is no JSON text. -/
def parse? (text : String) : Option Json := do
  let marks ← JsonText.marks? text.toList
  let s ← marks.foldlM JsonText.State.step ⟨[], .value⟩
  match s.expecting with
  | .done j => return j
  | _ => none

/-- A value read from a whole text. -/
def readText {α : Type} (read : Json → Except DecodeError α) (text : String) :
    Except DecodeError α :=
  match parse? text with
  | some j => read j
  | none => .error .notJson

end Json

end RowScope
