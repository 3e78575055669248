/-
Names.

A word is a letter or underscore followed by letters, digits and underscores, all
of ASCII; a name is one or more words with a dot between them.

* `Name.tail` — how far a name reaches into a text;
* `Name.isColumn` — whether a text is a name;
* `Name.bare`, `Name.owner?` — the part of a name after and before its last dot.
-/

namespace RowScope.Name

/-- Whether a word may start with the character. -/
def isStart (c : Char) : Bool :=
  c.isAlpha || c == '_'

/-- Whether a word may go on with the character. -/
def isPart (c : Char) : Bool :=
  c.isAlphanum || c == '_'

/-- Splits what follows the first character of a name into the rest of the name
and the text after it.  A dot belongs to the name only if a word follows. -/
def tail : List Char → List Char × List Char
  | [] => ([], [])
  | '.' :: c :: cs =>
    if isStart c then
      let (name, rest) := tail cs
      ('.' :: c :: name, rest)
    else ([], '.' :: c :: cs)
  | c :: cs =>
    if isPart c then
      let (name, rest) := tail cs
      (c :: name, rest)
    else ([], c :: cs)

theorem tail_append (cs : List Char) : (tail cs).1 ++ (tail cs).2 = cs := by
  fun_induction tail cs <;> simp_all

def isWord : List Char → Bool
  | [] => false
  | c :: cs => isStart c && cs.all isPart

/-- The parts of a text between its dots. -/
def parts : List Char → List (List Char)
  | [] => [[]]
  | c :: cs =>
    match parts cs with
    | [] => [[c]]
    | p :: ps => if c = '.' then [] :: p :: ps else (c :: p) :: ps

/-- Whether a text is a name of a column: words with dots between them. -/
def isColumn (s : String) : Bool :=
  (parts s.toList).all isWord

/-- The part of a name after its last dot. -/
def bare (s : String) : String :=
  String.ofList ((parts s.toList).getLast?.getD [])

/-- The part of a name before its last dot; none without a dot. -/
def owner? (s : String) : Option String :=
  match (parts s.toList).dropLast with
  | [] => none
  | ps => some (String.ofList (['.'].intercalate ps))

end RowScope.Name
