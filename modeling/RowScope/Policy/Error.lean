/-
What can go wrong with policies.

* `ResolveError` — a user or the scope of a role cannot be found out;
* `PolicyError` — a policy, a document or a fragment is not usable;
* `PolicyError.isConfiguration` — whether the error is found before any statement.
-/
import RowScope.Json.Basic
import RowScope.Text.Diagnostic

namespace RowScope

/-- Why the acting user or the scope of a role is not known. -/
inductive ResolveError where
  -- The acting user cannot be looked up.
  | user (message : String)
  -- The scope of a role cannot be found out.
  | scope (role : String) (message : String)
  -- The role does not exist.
  | unknownRole (role : String)
deriving DecidableEq

def ResolveError.message : ResolveError → String
  | user message => "current user lookup failed: " ++ message
  | scope role message => "scope resolution failed for role '" ++ role ++ "': " ++ message
  | unknownRole role => "unknown role '" ++ role ++ "'"

/-- Why a policy cannot be used or a condition cannot be composed. -/
inductive PolicyError where
  -- A mapping has not as many columns as keys.
  | arity (keys columns : Nat)
  -- A rule has no mapping.
  | emptyRule
  -- A column of a mapping is no name.
  | invalidColumn (column : String)
  -- No scope has this code or name.
  | unknownScope (text : String)
  -- A template, or the fragment in its place, is no condition.
  | malformedTemplate (template : String) (finding : Diagnostic)
  -- A rule is there already.
  | duplicateRule (target : String)
  -- A document cannot be read.
  | document (cause : DecodeError)
  -- A file cannot be read.
  | file (message : String)
  -- The acting user or a scope is not known.
  | resolve (cause : ResolveError)
  -- A rendered fragment is no condition.
  | fragment (finding : Diagnostic)
deriving DecidableEq

namespace PolicyError

def message : PolicyError → String
  | arity keys columns =>
    "column mapping arity mismatch: " ++ toString keys ++ " keys but " ++ toString columns
      ++ " values"
  | emptyRule => "policy rule declares no column mappings"
  | invalidColumn column => "invalid column identifier '" ++ column ++ "'"
  | unknownScope text => "unknown data scope '" ++ text ++ "'"
  | malformedTemplate template finding =>
    "malformed scope template '" ++ template ++ "': " ++ finding.message
  | duplicateRule target => "a policy rule is already registered for '" ++ target ++ "'"
  | document cause => "declaration error: " ++ cause.message
  | file message => "I/O error: " ++ message
  | resolve cause => cause.message
  | fragment finding => "fragment parse error: " ++ finding.message

/-- Whether the error lies in the configuration, and not in one statement. -/
def isConfiguration : PolicyError → Bool
  | resolve _ | fragment _ => false
  | _ => true

end PolicyError

end RowScope
