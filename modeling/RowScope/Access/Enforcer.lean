/-
Rules put into force.

Every statement of an application goes through `Enforcer.enforce` with the condition it
has.  What comes out never matches more rows than went in: the condition is left alone,
a condition is added to it, or no row is left.

* `Enforcer.identify` — the user of a session, looked up at most once;
* `Enforcer.enforce` — the condition of a statement with what its rule demands.

Design notes: an error on the way never lets a statement through; it leaves no row.
-/
import RowScope.Access.Grant
import RowScope.Policy.RuleBook

namespace RowScope

/-- Why a statement was left alone. -/
inductive PassReason where
  -- The rules are suspended.
  | suspended
  -- The statement has no rule.
  | noRule
  -- Nobody is signed in.
  | noUser
  -- The user is privileged.
  | privileged
  -- A role grants every row.
  | allRows
  -- The user has no roles.
  | noRoles
deriving DecidableEq

/-- What was done to a statement. -/
inductive Outcome where
  | passed (reason : PassReason)
  | filtered
  | denied
deriving DecidableEq

/-- The condition of a statement and what was done to it. -/
structure Verdict where
  filter : Option Filter
  outcome : Outcome

/-- What rules are enforced with. -/
structure Enforcer (σ : Type) where
  rules : RuleBook
  granter : Granter
  resolver : Resolver σ
  lookup? : Option (Lookup σ)

def PassReason.text : PassReason → String
  | suspended => "bypassed"
  | noRule => "no rule"
  | noUser => "no user"
  | privileged => "privileged user"
  | allRows => "all rows granted"
  | noRoles => "no fragment"

def Outcome.text : Outcome → String
  | passed reason => "pass-through (" ++ reason.text ++ ")"
  | filtered => "filtered"
  | denied => "denied"

namespace Verdict

/-- A statement that was left alone. -/
def pass (existing : Option Filter) (reason : PassReason) : Verdict :=
  ⟨existing, .passed reason⟩

/-- A statement that is left no row. -/
def deny (existing : Option Filter) : Verdict :=
  ⟨some (Filter.conjoin existing (.group .never)), .denied⟩

/-- A statement with what is granted. -/
def ofGrant (existing : Option Filter) : Except PolicyError Grant → Verdict
  | .error _ => deny existing
  | .ok .privileged => pass existing .privileged
  | .ok .allRows => pass existing .allRows
  | .ok .noRoles => pass existing .noRoles
  | .ok (.rows f) => ⟨some (Filter.conjoin existing f), .filtered⟩

end Verdict

namespace Enforcer

variable {σ : Type}

/-- The user of a session.  If nobody looked for one yet, it is looked up, and the
session knows the answer from then on. -/
def identify (e : Enforcer σ) (s : Session) (w : σ) :
    Except ResolveError (Option User) × Session × σ :=
  match s.actor, e.lookup? with
  | .unresolved, some lookup =>
    match lookup w with
    | (.error err, w) => (.error err, s, w)
    | (.ok u, w) => (.ok u, s.signIn u, w)
  | .unresolved, none => (.ok none, s.signIn none, w)
  | actor, _ => (.ok actor.user?, s, w)

/-- The condition of a statement with what its rule demands.  The rule forced on the
statement is used up, whatever happens. -/
def enforce (e : Enforcer σ) (query : String) (existing : Option Filter)
    (statement : Statement) (s : Session) (w : σ) : Verdict × Session × σ :=
  let (forced, s) := s.takeForced
  if s.isSuspended then (.pass existing .suspended, s, w)
  else
    match e.rules.lookup query forced with
    | none => (.pass existing .noRule, s, w)
    | some rule =>
      match e.identify s w with
      | (.error _, s, w) => (.deny existing, s, w)
      | (.ok none, s, w) => (.pass existing .noUser, s, w)
      | (.ok (some u), s, w) =>
        match e.granter.grant e.resolver rule u statement s w with
        | (answer, s, w) => (.ofGrant existing answer, s, w)

end Enforcer

end RowScope
