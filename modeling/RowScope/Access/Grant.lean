/-
What a rule grants to a user.

Each role of a user gives one condition, in parentheses: the template of its scope with
the columns of the rule, or the fallback of the template if the rule has no column for
it.  The conditions of the roles are joined as the rule says for the statement.

* `Granter.ofRole` — the condition of one role;
* `Granter.grant` — the condition of all roles, or the reason why there is none.

Design notes: the columns of all mappings are bound together, so a template may take its
columns from several mappings.  A role that grants every row ends the search, and so
does an error; the roles after it are not asked.
-/
import RowScope.Access.Resolver
import RowScope.Settings
import RowScope.Template.Scoped

namespace RowScope

/-- What is granted to a user for a statement. -/
inductive Grant where
  -- The user is privileged and sees every row.
  | privileged
  -- A role grants every row.
  | allRows
  -- The user has no roles.
  | noRoles
  -- The rows that meet a condition.
  | rows (condition : Filter)

/-- What grants are made from. -/
structure Granter where
  templates : List ScopeTemplate
  missing : String
  privileged : NameSet

/-- Whether a user needs no condition from a mapping. -/
def Mapping.exempts (m : Mapping) (u : User) : Bool :=
  m.capability.any u.holds

/-- The columns of a rule for a user; of mappings with one placeholder the last counts. -/
def Rule.bindings (r : Rule) (u : User) : Bindings :=
  .ofList ((r.mappings.filter fun m => !m.exempts u).flatMap fun m =>
    m.columns.map fun (key, column) => (key, .column column))

/-- What the placeholders of a role stand for. -/
def Role.bindings (role : Role) (r : Resolution) : Bindings :=
  .ofList [("role.id", .value (.int role.id)), ("role.key", .value (.text role.key)),
    ("role.dataScope", .value (.text r.scope.code)), (scopeIdsName, .values r.ids)]

/-- What is granted by the conditions of the roles; equal ones count once. -/
def Grant.ofRoles (join : Join) (conditions : List Filter) : Grant :=
  match Filter.join? join (Filter.distinct conditions) with
  | none => noRoles
  | some f => rows (if f.isGroup then f else .group f)

namespace Granter

variable {σ : Type}

/-- A granter with some settings. -/
def ofSettings (s : Settings) : Except PolicyError Granter :=
  (ScopeTemplate.builtin s.missing).map fun templates => ⟨templates, s.missing, s.privileged⟩

/-- Whether a user sees every row. -/
def isPrivileged (g : Granter) (u : User) : Bool :=
  u.capabilities.meets g.privileged

/-- The condition that a mapping gives with a template.  It gives none if the template
has none of its placeholders. -/
def fragment? (g : Granter) (t : ScopeTemplate) (layers : List Bindings) (u : User)
    (m : Mapping) : Except PolicyError (Option Filter) :=
  if m.exempts u then .ok (some .always)
  else if t.overlaps m.keys then
    ((t.template.condition g.missing layers).mapError .fragment).map some
  else .ok none

/-- The condition that a rule gives with a template, in parentheses. -/
def condition (g : Granter) (t : ScopeTemplate) (layers : List Bindings) (u : User)
    (rule : Rule) (join : Join) : Except PolicyError Filter :=
  (rule.mappings.mapM (g.fragment? t layers u)).map fun fragments =>
    .group ((Filter.join? join (Filter.distinct (fragments.filterMap id))).getD t.fallback)

/-- The condition of one role; none if the role grants every row. -/
def ofRole (g : Granter) (resolver : Resolver σ) (rule : Rule) (u : User) (join : Join)
    (role : Role) (s : Session) (w : σ) : Except PolicyError (Option Filter) × Session × σ :=
  match resolver.suspended role u s w with
  | (.error e, s, w) => (.error (.resolve e), s, w)
  | (.ok r, s, w) =>
    match ScopeTemplate.ofScope? g.templates r.scope with
    | none => (.ok none, s, w)
    | some t =>
      let layers := [rule.bindings u, role.bindings r, u.bindings, s.bindings]
      ((g.condition t layers u rule join).map some, s, w)

/-- The conditions of some roles in their order; none if one of them grants every row. -/
def ofRoles (g : Granter) (resolver : Resolver σ) (rule : Rule) (u : User) (join : Join)
    (roles : List Role) (s : Session) (w : σ) :
    Except PolicyError (Option (List Filter)) × Session × σ :=
  match roles with
  | [] => (.ok (some []), s, w)
  | role :: roles =>
    match g.ofRole resolver rule u join role s w with
    | (.error e, s, w) => (.error e, s, w)
    | (.ok none, s, w) => (.ok none, s, w)
    | (.ok (some f), s, w) =>
      match g.ofRoles resolver rule u join roles s w with
      | (.error e, s, w) => (.error e, s, w)
      | (.ok fs, s, w) => (.ok (fs.map (f :: ·)), s, w)

/-- What a rule grants to a user for a statement. -/
def grant (g : Granter) (resolver : Resolver σ) (rule : Rule) (u : User)
    (statement : Statement) (s : Session) (w : σ) : Except PolicyError Grant × Session × σ :=
  if g.isPrivileged u then (.ok .privileged, s, w)
  else
    let join := rule.joinFor statement
    match g.ofRoles resolver rule u join (Role.distinct u.roles) s w with
    | (.error e, s, w) => (.error e, s, w)
    | (.ok none, s, w) => (.ok .allRows, s, w)
    | (.ok (some fs), s, w) => (.ok (.ofRoles join fs), s, w)

end Granter

end RowScope
