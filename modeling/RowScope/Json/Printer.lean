/-
Writing JSON text.

* `Json.compact` — without blanks;
* `Json.pretty` — one element or member a line, two blanks a level.

Only quotes, backslashes and control characters are escaped.
-/
import RowScope.Json.Basic
import RowScope.Number.Decimal

namespace RowScope

namespace JsonText

/-- The hexadecimal digits of a control character. -/
def controlDigits (c : Char) : List Char :=
  (Nat.toDigits 16 c.toNat).leftpad 4 '0'

/-- A character inside a string. -/
def escaped (c : Char) : List Char :=
  match c with
  | '"' => ['\\', '"']
  | '\\' => ['\\', '\\']
  | '\x08' => ['\\', 'b']
  | '\x0c' => ['\\', 'f']
  | '\n' => ['\\', 'n']
  | '\r' => ['\\', 'r']
  | '\t' => ['\\', 't']
  | c => if c.toNat < 32 then '\\' :: 'u' :: controlDigits c else [c]

/-- A text between quotes. -/
def quote (s : String) : String :=
  "\"" ++ String.ofList (s.toList.flatMap escaped) ++ "\""

/-- A value without parts; what has no JSON form is a null. -/
def scalar : Json → String
  | .bool b => if b then "true" else "false"
  | .int n => toString n
  | .float x => if x.isNaN || x.isInf then "null" else floatLiteral x
  | .str s => quote s
  | _ => "null"

/-- The blanks before a line of a level. -/
def indent (level : Nat) : String :=
  String.ofList (List.replicate (2 * level) ' ')

/-- The parts of an array or object, one a line. -/
def block (opening closing : String) (level : Nat) (parts : List String) : String :=
  if parts.isEmpty then opening ++ closing
  else
    let separator := "\n" ++ indent (level + 1)
    opening ++ separator ++ ("," ++ separator).intercalate parts ++ "\n" ++ indent level ++ closing

end JsonText

namespace Json

mutual

/-- The value as text without blanks. -/
def compact : Json → String
  | arr items => "[" ++ ",".intercalate (compactItems items) ++ "]"
  | obj members => "\x7b" ++ ",".intercalate (compactMembers members) ++ "\x7d"
  | j => JsonText.scalar j

/-- The elements of an array as texts without blanks. -/
def compactItems : List Json → List String
  | [] => []
  | j :: js => compact j :: compactItems js

/-- The members of an object as texts without blanks. -/
def compactMembers : List (String × Json) → List String
  | [] => []
  | (name, j) :: ms => (JsonText.quote name ++ ":" ++ compact j) :: compactMembers ms

end

mutual

/-- The value as text over several lines, inside `level` open brackets. -/
def prettyAt (level : Nat) : Json → String
  | arr items => JsonText.block "[" "]" level (prettyItems (level + 1) items)
  | obj members => JsonText.block "\x7b" "\x7d" level (prettyMembers (level + 1) members)
  | j => JsonText.scalar j

/-- The elements of an array as texts over several lines. -/
def prettyItems (level : Nat) : List Json → List String
  | [] => []
  | j :: js => prettyAt level j :: prettyItems level js

/-- The members of an object as texts over several lines. -/
def prettyMembers (level : Nat) : List (String × Json) → List String
  | [] => []
  | (name, j) :: ms => (JsonText.quote name ++ ": " ++ prettyAt level j) :: prettyMembers level ms

end

/-- The value as text over several lines. -/
def pretty (j : Json) : String :=
  prettyAt 0 j

end Json

end RowScope
