/-
Tokens of the fragment language.

A fragment is a condition as text.  Its tokens are keywords, which are names in
any case, comparison operators, names, literals and punctuation.

* `Keyword.ofName?` — the keyword that a name spells;
* `Keyword.mayStartWith` — whether a word can still become a keyword;
* `Token.describe` — a token as a diagnostic speaks of it;
* `Token.same` — the same token, by the comparison of doubles.
-/
import RowScope.Filter.Sql

namespace RowScope

/-- The words of the language. -/
inductive Keyword where
  | and
  | or
  | not
  | member
  | is
  | like
  | null
  | true
  | false
deriving DecidableEq

namespace Keyword

def spelling : Keyword → String
  | and => "AND"
  | or => "OR"
  | not => "NOT"
  | member => "IN"
  | is => "IS"
  | like => "LIKE"
  | null => "NULL"
  | true => "TRUE"
  | false => "FALSE"

/-- All keywords. -/
def all : List Keyword :=
  [and, or, not, member, is, like, null, true, false]

/-- The keyword that a name spells, in any case. -/
def ofName? (name : List Char) : Option Keyword :=
  all.find? fun k => k.spelling.toList == name.map Char.toUpper

/-- Whether some keyword starts with a word, in any case. -/
def mayStartWith (word : List Char) : Bool :=
  all.any fun k => (word.map Char.toUpper).isPrefixOf k.spelling.toList

end Keyword

/-- A token of a fragment. -/
inductive Token where
  | keyword (k : Keyword)
  | comparison (c : Comparison)
  | name (s : String)
  | text (s : String)
  | int (n : Int64)
  | float (x : Float)
  | comma
  | leftParen
  | rightParen
deriving DecidableEq

namespace Token

def describe : Token → String
  | keyword k => "'" ++ k.spelling ++ "'"
  | comparison c => "'" ++ c.symbol ++ "'"
  | name s => "identifier '" ++ s ++ "'"
  | text _ => "string literal"
  | int n => "integer " ++ toString n.toInt
  | float x => "number " ++ floatText x
  | comma => "','"
  | leftParen => "'('"
  | rightParen => "')'"

/-- The same token.  Doubles are the same when they compare equal, so the two zeros are. -/
def same : Token → Token → Bool
  | float x, float y => x == y
  | t, u => t == u

/-- The operand that a token stands for, if it stands for one. -/
def operand? : Token → Option Operand
  | name s => some (.column s)
  | text s => some (.literal (.text s))
  | int n => some (.literal (.int n))
  | float x => some (.literal (.float x))
  | keyword .null => some (.literal .null)
  | keyword .true => some (.literal (.bool true))
  | keyword .false => some (.literal (.bool false))
  | _ => none

end Token

end RowScope
