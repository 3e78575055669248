/-
Finding out what a role grants.

* `Resolution` — the scope of a role and its set of ids;
* `Resolver` — a way to find out, which may use and change a store of its own and the
  session of the operation;
* `Resolver.suspended` — a resolver as it is asked: with the rules suspended, so that
  the statements it issues are not subject to them.
-/
import RowScope.Access.Session

namespace RowScope

/-- What a role grants: a scope, and the ids that describe it. -/
structure Resolution where
  scope : Scope
  ids : List Value
deriving DecidableEq

/-- A way to find out what a role of a user grants, over a store `σ`. -/
abbrev Resolver (σ : Type) :=
  Role → User → Session → σ → Except ResolveError Resolution × Session × σ

namespace Resolver

variable {σ : Type}

/-- A resolver that only looks at the role and the user. -/
def ofFunction (f : Role → User → Except ResolveError Resolution) : Resolver σ :=
  fun role user s w => (f role user, s, w)

/-- The resolver with the rules suspended until it has answered. -/
def suspended (r : Resolver σ) : Resolver σ :=
  fun role user s w =>
    let (answer, s, w) := r role user s.push w
    (answer, s.pop, w)

end Resolver

/-- A way to find out who is signed in, over a store `σ`. -/
abbrev Lookup (σ : Type) := σ → Except ResolveError (Option User) × σ

end RowScope
