/-
Sessions: what one operation of an application carries along.

* `Session.push`, `Session.pop` — suspend the rules and take them up again, counted;
* `Session.suspended` — an action inside a suspension of its own;
* `Session.takeForced` — the rule forced on the next statement, used up by it.

Design notes: the suspensions that are open are counted without a bound.  A counter in a machine
word has a greatest value, so what is said here of a depth holds of such a counter as long as no
more suspensions are open at once.
-/
import RowScope.Access.User
import RowScope.Policy.Rule

namespace RowScope

/-- Whom an operation runs for. -/
inductive Actor where
  -- Nobody looked for a user yet.
  | unresolved
  -- Nobody is signed in.
  | anonymous
  | user (u : User)

/-- The state of one operation. -/
structure Session where
  actor : Actor
  -- Bindings that every template sees.
  bindings : Bindings
  -- How many suspensions of the rules are open.
  depth : Nat
  -- The rule for the next statement.
  forced : Option Rule

/-- The user, if one is known. -/
def Actor.user? : Actor → Option User
  | user u => some u
  | _ => none

namespace Session

def start : Session where
  actor := .unresolved
  bindings := .empty
  depth := 0
  forced := none

def ofUser (u : User) : Session :=
  { start with actor := .user u }

/-- The session with a user, or with nobody signed in. -/
def signIn (s : Session) (u : Option User) : Session :=
  { s with actor := (u.map Actor.user).getD .anonymous }

/-- The session with a variable. -/
def setVariable (s : Session) (name : String) (b : Binding) : Session :=
  { s with bindings := s.bindings.insert name b }

def push (s : Session) : Session :=
  { s with depth := s.depth + 1 }

/-- One suspension less, if there is one. -/
def pop (s : Session) : Session :=
  { s with depth := s.depth - 1 }

/-- An action with the rules suspended until it is done. -/
def suspended {α : Type} (s : Session) (action : Session → α × Session) : α × Session :=
  let (a, s) := action s.push
  (a, s.pop)

def isSuspended (s : Session) : Bool :=
  0 < s.depth

/-- The session with a rule for the next statement. -/
def force (s : Session) (r : Rule) : Session :=
  { s with forced := some r }

/-- The rule for the next statement, and the session without it. -/
def takeForced (s : Session) : Option Rule × Session :=
  (s.forced, { s with forced := none })

end Session

end RowScope
