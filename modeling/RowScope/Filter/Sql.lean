/-
Conditions as SQL text.

`Filter.sql` writes a condition as the fragment reader reads it.  Parentheses are
written for a group, for a disjunction inside a conjunction, and for a list under
a negation.  An empty conjunction is written as the condition that always holds,
an empty disjunction as the one that never does.
-/
import RowScope.Filter.Basic

namespace RowScope

def Comparison.symbol : Comparison → String
  | eq => "="
  | ne => "!="
  | lt => "<"
  | le => "<="
  | gt => ">"
  | ge => ">="

def Join.word : Join → String
  | and => "AND"
  | or => "OR"

/-- An operand as SQL text. -/
def Operand.sql : Operand → String
  | column name => name
  | literal v => v.sql

namespace Filter

/-- A text in parentheses. -/
def parenthesized (s : String) : String :=
  "(" ++ s ++ ")"

/-- The word that negates an operator, with the blank after it. -/
def notWord (negated : Bool) : String :=
  if negated then "NOT " else ""

mutual

/-- A condition as SQL text. -/
def sql : Filter → String
  | compare l c r => l.sql ++ " " ++ c.symbol ++ " " ++ r.sql
  | member o vs negated =>
    o.sql ++ " " ++ notWord negated ++ "IN "
      ++ parenthesized (", ".intercalate (vs.map Operand.sql))
  | isNull o negated => o.sql ++ " IS " ++ notWord negated ++ "NULL"
  | like o pattern negated => o.sql ++ " " ++ notWord negated ++ "LIKE " ++ Quoted.literal pattern
  | and fs => if fs.isEmpty then "1 = 1" else " AND ".intercalate (conjuncts fs)
  | or fs => if fs.isEmpty then "1 = 0" else " OR ".intercalate (disjuncts fs)
  | not f => "NOT " ++ if f.isJoined then parenthesized (sql f) else sql f
  | group f => parenthesized (sql f)
  | always => "1 = 1"
  | never => "1 = 0"

/-- The members of a conjunction as SQL text. -/
def conjuncts : List Filter → List String
  | [] => []
  | f :: fs => (if f.isOr then parenthesized (sql f) else sql f) :: conjuncts fs

/-- The members of a disjunction as SQL text. -/
def disjuncts : List Filter → List String
  | [] => []
  | f :: fs => sql f :: disjuncts fs

end

end Filter

end RowScope
