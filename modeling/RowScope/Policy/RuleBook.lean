/-
The rules in force.

A rule stands for one statement, by its full name, or for all statements of an owner,
by the part of their names before the last dot.

* `RuleBook.ofTable` — the rules of a table;
* `RuleBook.register` — one more rule, for a target without one;
* `RuleBook.lookup` — the rule for a statement.
-/
import RowScope.Ascending
import RowScope.KeyMap
import RowScope.Policy.Table

namespace RowScope

/-- The rules in force, by target. -/
structure RuleBook where
  rules : KeyMap String Rule

namespace RuleBook

def empty : RuleBook := ⟨.empty⟩

/-- The book with one more rule; a target keeps the rule that it has. -/
def register (b : RuleBook) (target : String) (rule : Rule) : Except PolicyError RuleBook :=
  if b.rules.contains target then .error (.duplicateRule target)
  else .ok ⟨b.rules.insert target rule⟩

/-- The book of a list of rules, for distinct targets. -/
def ofRules (rules : List (String × Rule)) : Except PolicyError RuleBook :=
  rules.foldlM (fun b (target, rule) => b.register target rule) empty

/-- The book of a table.  Nothing is registered unless every entry is a rule. -/
def ofTable (t : PolicyTable) : Except PolicyError RuleBook := do
  ofRules (← t.toRules)

/-- The rule for a statement: the given one, or else that of the statement itself, or
else that of its owner. -/
def lookup (b : RuleBook) (query : String) (given : Option Rule) : Option Rule :=
  given.or ((b.rules.find? query).or ((Name.owner? query).bind b.rules.find?))

/-- The targets with a rule, in ascending order. -/
def targets (b : RuleBook) : List String :=
  ascending b.rules.keys

def size (b : RuleBook) : Nat :=
  b.rules.size

end RuleBook

end RowScope
