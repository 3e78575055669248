/-
The templates of the scopes.

* `isRuleVariable` — whether a placeholder is bound by the columns of a rule;
* `ScopeTemplate.compile` — a template that is known to spell a condition;
* `ScopeTemplate.builtin` — the templates of all scopes.

Design notes: a template is tried out with every placeholder replaced by the text
for a missing value.  So that text has to be an operand on its own, or the built-in
templates do not compile.
-/
import RowScope.Scope
import RowScope.Template.Binding

namespace RowScope

/-- The placeholder for the id set of a role. -/
def scopeIdsName : String := "scopeIds"

/-- Whether a name starts with a text. -/
def startsWith (start name : String) : Bool :=
  start.toList.isPrefixOf name.toList

/-- Whether a placeholder is bound by the columns of a rule, and not by the role,
its user or the application. -/
def isRuleVariable (name : String) : Bool :=
  name != scopeIdsName && !startsWith "user." name && !startsWith "role." name

/-- A template of a scope, and the condition in its place for rules that bind none of
its placeholders. -/
structure ScopeTemplate where
  scope : Scope
  template : Template
  fallback : Filter

namespace ScopeTemplate

/-- A template and the fragment in its place, both tried out. -/
def compile (scope : Scope) (template fallback missing : String) :
    Except PolicyError ScopeTemplate := do
  let parsed ← (Template.parse template).mapError (.malformedTemplate template)
  let _ ← (Filter.parse (parsed.render (fun _ => none) missing).text).mapError
    (.malformedTemplate template)
  let condition ← (Filter.parse fallback).mapError (.malformedTemplate fallback)
  return ⟨scope, parsed, condition⟩

/-- The placeholders that are bound by the columns of a rule. -/
def ruleVariables (t : ScopeTemplate) : List String :=
  t.template.names.filter isRuleVariable

/-- Whether some of the names is a placeholder bound by the columns of a rule. -/
def overlaps (t : ScopeTemplate) (names : List String) : Bool :=
  t.ruleVariables.any names.contains

/-- The templates of all scopes that have one. -/
def builtin (missing : String) : Except PolicyError (List ScopeTemplate) :=
  (Scope.list.filterMap fun scope => scope.template?.map (scope, ·)).mapM
    fun (scope, template, fallback) => compile scope template fallback missing

/-- The template of a scope. -/
def ofScope? (ts : List ScopeTemplate) (scope : Scope) : Option ScopeTemplate :=
  ts.find? fun t => t.scope == scope

end ScopeTemplate

end RowScope
