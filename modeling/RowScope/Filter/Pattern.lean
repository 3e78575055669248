/-
Pattern matching on text.

In a pattern `%` stands for any run of characters, `_` for any one character, and
every other character for itself.

Design notes: the text is read once.  After a part of it, a row of truth values
says for each prefix of the pattern whether that prefix matches the part read so
far; `Pattern.advance` computes the row after one more character.
-/

namespace RowScope.Pattern

/-- The rest of the row for the empty text, after the entry `before`. -/
def startRest (before : Bool) : List Char → List Bool
  | [] => []
  | p :: ps =>
    let entry := before && p == '%'
    entry :: startRest entry ps

/-- The row for the empty text: the prefixes that are all `%`. -/
def start (pattern : List Char) : List Bool :=
  true :: startRest true pattern

/-- The rest of the row after the character `c`, from the previous row and the
entry `before` of the new one. -/
def advanceRest (c : Char) (before : Bool) : List Char → List Bool → List Bool
  | p :: ps, diagonal :: above :: row =>
    let entry :=
      if p = '%' then before || above
      else if p = '_' then diagonal
      else diagonal && p == c
    entry :: advanceRest c entry ps (above :: row)
  | _, _ => []

/-- The row after the character `c`. -/
def advance (pattern : List Char) (row : List Bool) (c : Char) : List Bool :=
  false :: advanceRest c false pattern row

/-- Whether a text matches a pattern. -/
def isMatch (text pattern : List Char) : Bool :=
  (text.foldl (advance pattern) (start pattern)).getLast?.getD false

end RowScope.Pattern
