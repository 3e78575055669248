/-
What a resolver is called for.

A granter asks its resolver for the roles of a user.  The calls are written down beside the
store, each with what the resolver finds and what it answers.

* `Resolver.traced` — a resolver with the list of its calls;
* `Granter.calls` — the calls that are made for a grant;
* `Call.Ends` — the search through the roles ends with a call;
* `Granter.IsTrace` — calls for some roles in their order, of which only the last may end the
  search;
* `Granter.isTrace_calls` — the calls for a grant, and what is left of the session after it.

Design notes: a call is made inside a suspension of its own, so the resolver finds one
suspension more than there is before and after the call.  That the suspensions stay as many
from one call to the next is needed for the calls that follow, and it is what a resolver that
only binds variables grants.
-/
import RowScope.Proofs.Access.EveryRow
import RowScope.Proofs.Access.Simulation

namespace RowScope

variable {σ : Type}

/-- Of the roles with one id the first one stays. -/
theorem Role.map_id_distinct (roles : List Role) :
    (Role.distinct roles).map Role.id = (roles.map Role.id).eraseDups := by
  rw [distinct, List.eraseDups]
  induction roles using eraseDupsBy_induction (r := fun r r' : Role => r.id == r'.id) with
  | nil => rfl
  | cons role roles ih =>
    rw [List.eraseDupsBy_cons, List.map_cons, List.map_cons, List.eraseDupsBy_cons, ih,
      List.filter_map]
    rfl

/-- A call of a resolver. -/
structure Call where
  role : Role
  user : User
  -- The session that the resolver finds, and the one that it leaves.
  before : Session
  after : Session
  answer : Except ResolveError Resolution

namespace Resolver

/-- The resolver with the list of its calls. -/
def traced (r : Resolver σ) : Resolver (List Call × σ) :=
  fun role user s (calls, w) =>
    let (answer, s', w) := r role user s w
    (answer, s', (calls ++ [⟨role, user, s, s', answer⟩], w))

/-- The call of a resolver for a role, as it is asked: with the rules suspended. -/
def call (r : Resolver σ) (role : Role) (u : User) (s : Session) (w : σ) : Call :=
  ⟨role, u, s.push, (r role u s.push w).2.1, (r role u s.push w).1⟩

theorem suspended_traced (r : Resolver σ) (role : Role) (u : User) (s : Session)
    (calls : List Call) (w : σ) :
    r.traced.suspended role u s (calls, w)
      = ((r.suspended role u s w).1, (r.suspended role u s w).2.1,
          (calls ++ [r.call role u s w], (r.suspended role u s w).2.2)) :=
  rfl

/-- A resolver answers alike when its calls are written down. -/
theorem traced_simulates (r : Resolver σ) :
    r.traced.Simulates r fun x y => x.1 = y.1 ∧ x.2.2 = y.2 where
  bindings := by
    rintro x y ⟨hsession, -⟩
    rw [hsession]
  answers := by
    rintro ⟨s, calls, w⟩ ⟨_, _⟩ ⟨rfl, rfl⟩ role u
    exact ⟨rfl, rfl, rfl⟩

end Resolver

/-- The search through the roles ends with a call: it fails, or it grants every row, or some
mapping needs the fragment of the role, and that is no condition. -/
def Call.Ends (g : Granter) (rule : Rule) (c : Call) : Prop :=
  match c.answer with
  | .error _ => True
  | .ok r => r.scope = .all ∨
      ∃ t, ScopeTemplate.ofScope? g.templates r.scope = some t ∧
        Granter.needsFragment t c.user rule = true ∧
        ∀ f, t.template.condition g.missing (rule.layers c.user c.role r c.after.bindings) ≠ .ok f

namespace Granter

variable {g : Granter} {settings : Settings} {resolver : Resolver σ} {rule : Rule} {u : User}
  {join : Join} {role : Role} {roles : List Role} {depth : Nat} {c : Call} {cs : List Call}
  {s : Session} {w : σ}

/-- The calls that are made for a grant. -/
def calls (g : Granter) (resolver : Resolver σ) (rule : Rule) (u : User) (statement : Statement)
    (s : Session) (w : σ) : List Call :=
  (g.grant resolver.traced rule u statement s ([], w)).2.2.1

/-- Calls for some roles of a user in their order, each inside `depth` suspensions. -/
structure IsTrace (g : Granter) (rule : Rule) (u : User) (depth : Nat) (roles : List Role)
    (cs : List Call) : Prop where
  -- There is one call for each role, up to the last call.
  inOrder : cs.map Call.role <+: roles
  user : ∀ c ∈ cs, c.user = u
  depth : ∀ c ∈ cs, c.before.depth = depth
  -- No call ends the search but the last one, and without such a call none is left out.
  goesOn : ∀ c ∈ cs.dropLast, ¬c.Ends g rule
  complete : (∃ c, cs.getLast? = some c ∧ c.Ends g rule) ∨ cs.map Call.role = roles

namespace IsTrace

theorem nil : g.IsTrace rule u depth [] [] where
  inOrder := List.nil_prefix
  user := by simp
  depth := by simp
  goesOn := by simp
  complete := .inr rfl

/-- A call that ends the search is the last one, whatever roles are left. -/
theorem stop (huser : c.user = u) (hdepth : c.before.depth = depth) (h : c.Ends g rule)
    (roles : List Role) : g.IsTrace rule u depth (c.role :: roles) [c] where
  inOrder := List.cons_prefix_cons.2 ⟨rfl, List.nil_prefix⟩
  user := List.forall_mem_singleton.2 huser
  depth := List.forall_mem_singleton.2 hdepth
  goesOn := by simp
  complete := .inl ⟨c, rfl, h⟩

/-- After a call that does not end the search come the calls for the other roles. -/
theorem cons (huser : c.user = u) (hdepth : c.before.depth = depth) (h : ¬c.Ends g rule)
    (hrest : g.IsTrace rule u depth roles cs) :
    g.IsTrace rule u depth (c.role :: roles) (c :: cs) where
  inOrder := List.cons_prefix_cons.2 ⟨rfl, hrest.inOrder⟩
  user := List.forall_mem_cons.2 ⟨huser, hrest.user⟩
  depth := List.forall_mem_cons.2 ⟨hdepth, hrest.depth⟩
  goesOn := by
    cases cs with
    | nil => simp
    | cons c' cs => exact List.forall_mem_cons.2 ⟨h, hrest.goesOn⟩
  complete := by
    rcases hrest.complete with ⟨last, hlast, hends⟩ | hall
    · exact .inl ⟨last, by rw [List.getLast?_cons, hlast]; rfl, hends⟩
    · exact .inr (congrArg (c.role :: ·) hall)

end IsTrace

variable (resolver rule u join role s w)

/-- The condition of a role is there, unless a fragment is needed and is no condition. -/
theorem condition_ne_ok_iff (t : ScopeTemplate) (layers : List Bindings) :
    (∀ f, g.condition t layers u rule join ≠ .ok f) ↔
      needsFragment t u rule = true ∧ ∀ f, t.template.condition g.missing layers ≠ .ok f := by
  have herror : errorOf? (g.condition t layers u rule join) = if needsFragment t u rule then
      (errorOf? (t.template.condition g.missing layers)).map .fragment else none :=
    errorOf?_condition
  rcases hc : g.condition t layers u rule join with e | f <;> rw [hc] at herror
  · rcases hf : t.template.condition g.missing layers with e' | f
    · cases hneeds : needsFragment t u rule with
      | true => simp
      | false => simp [errorOf?, hneeds] at herror
    · simp [errorOf?, hf] at herror
  · rcases hf : t.template.condition g.missing layers with e' | f
    · cases hneeds : needsFragment t u rule with
      | true => simp [errorOf?, hf, hneeds] at herror
      | false => simp
    · simp

/-- The search goes on after a role if its call does not end it. -/
theorem ends_call_iff (hg : ofSettings settings = .ok g) :
    (resolver.call role u s w).Ends g rule ↔
      ∀ f, (g.ofRole resolver rule u join role s w).1 ≠ .ok (some f) := by
  rcases hask : resolver.suspended role u s w with ⟨e | r, s', w'⟩
  · have hanswer : (resolver.call role u s w).answer = .error e := congrArg Prod.fst hask
    rw [Call.Ends, hanswer]
    simp [ofRole, hask]
  · have hanswer : (resolver.call role u s w).answer = .ok r := congrArg Prod.fst hask
    have hbindings : (resolver.call role u s w).after.bindings = s'.bindings :=
      congrArg (fun x => x.2.1.bindings) hask
    rw [Call.Ends, hanswer]
    simp only [ofRole, hask, hbindings]
    cases ht : ScopeTemplate.ofScope? g.templates r.scope with
    | none => simp [(ofScope?_eq_none_iff hg).1 ht]
    | some t =>
      have hall : r.scope ≠ .all := fun hall => by
        rw [(ofScope?_eq_none_iff hg).2 hall] at ht
        exact absurd ht (by simp)
      simp only [hall, false_or, Option.some.injEq, exists_eq_left']
      refine (condition_ne_ok_iff rule u join t (rule.layers u role r s'.bindings)).symm.trans ?_
      rw [Rule.layers]
      cases g.condition t _ u rule join with
      | error e => simp [Except.map]
      | ok f => simp [Except.map]

theorem depth_of_ofRole (hr : resolver.BindsOnly) :
    (g.ofRole resolver rule u join role s w).2.1.depth = s.depth := by
  obtain ⟨-, -, bindings, hs⟩ := ofRole_of_simulates (g := g) (x := (s, w)) (y := (s, w))
    (hr.simulates s) ⟨rfl, s.bindings, rfl⟩ rule u join role
  rw [hs]

/-- One call is made for a role. -/
theorem ofRole_traced (cs : List Call) :
    g.ofRole resolver.traced rule u join role s (cs, w)
      = ((g.ofRole resolver rule u join role s w).1, (g.ofRole resolver rule u join role s w).2.1,
          (cs ++ [resolver.call role u s w], (g.ofRole resolver rule u join role s w).2.2)) := by
  rw [ofRole, Resolver.suspended_traced, ofRole]
  rcases resolver.suspended role u s w with ⟨e | r, s', w'⟩
  · rfl
  · cases ht : ScopeTemplate.ofScope? g.templates r.scope with
    | none => simp only [ht]
    | some t => simp only [ht]

/-- The calls for some roles come after those that were made before. -/
theorem ofRoles_traced (roles : List Role) (s : Session) (w : σ)
    (hg : ofSettings settings = .ok g) (hr : resolver.BindsOnly) (cs : List Call) :
    ∃ more, g.IsTrace rule u (s.depth + 1) roles more ∧
      (g.ofRoles resolver.traced rule u join roles s (cs, w)).2.2.1 = cs ++ more := by
  induction roles generalizing s w cs with
  | nil => exact ⟨[], .nil, by simp [ofRoles]⟩
  | cons role roles ih =>
    have hends := ends_call_iff resolver rule u join role s w hg
    have hdepth : (g.ofRole resolver rule u join role s w).2.1.depth = s.depth :=
      depth_of_ofRole resolver rule u join role s w hr
    have hrole : g.ofRole resolver.traced rule u join role s (cs, w) = _ :=
      ofRole_traced resolver rule u join role s w cs
    rcases hanswer : g.ofRole resolver rule u join role s w with ⟨e | _ | f, s', w'⟩ <;>
      rw [hanswer] at hends hdepth hrole
    · exact ⟨_, .stop rfl rfl (hends.2 (by simp)) roles, by simp only [ofRoles, hrole]⟩
    · exact ⟨_, .stop rfl rfl (hends.2 (by simp)) roles, by simp only [ofRoles, hrole]⟩
    · -- as many suspensions are open for the calls that follow
      obtain ⟨more, htrace, hmore⟩ := ih s' w' (cs ++ [resolver.call role u s w])
      rw [hdepth] at htrace
      refine ⟨resolver.call role u s w :: more, .cons rfl rfl (fun h => hends.1 h f rfl) htrace, ?_⟩
      rw [List.append_assoc] at hmore
      rcases hrest : g.ofRoles resolver.traced rule u join roles s'
        (cs ++ [resolver.call role u s w], w') with ⟨e | fs, s'', w''⟩ <;>
        rw [hrest] at hmore <;> simp only [ofRoles, hrole, hrest] <;> exact hmore

/-- **For a grant each role of the user is asked for once**, in the order of the roles and inside
one more suspension, until a call ends the search; for a privileged user no role is asked for.
Whatever is granted, and also where the search fails, the user, the suspensions and the forced
rule are as they were before. -/
theorem isTrace_calls (hg : ofSettings settings = .ok g) (hr : resolver.BindsOnly)
    (statement : Statement) :
    let calls := g.calls resolver rule u statement s w
    let done := g.grant resolver rule u statement s w
    (g.isPrivileged u = true → calls = []) ∧
      (g.isPrivileged u = false →
        g.IsTrace rule u (s.depth + 1) (Role.distinct u.roles) calls) ∧
      (Role.distinct u.roles).map Role.id = (u.roles.map Role.id).eraseDups ∧
      (g.grant resolver.traced rule u statement s ([], w)).1 = done.1 ∧
      done.2.1.actor = s.actor ∧ done.2.1.depth = s.depth ∧ done.2.1.forced = s.forced := by
  intro calls done
  have hsame := grant_of_simulates (g := g) (x := (s, ([], w))) (y := (s, w))
    resolver.traced_simulates ⟨rfl, rfl⟩ rule u statement
  obtain ⟨bindings, hsession⟩ := session_of_grant (g := g) hr rule u statement s w
  refine ⟨fun hp => ?_, fun hp => ?_, Role.map_id_distinct u.roles, hsame.1, ?_⟩
  · simp only [calls, Granter.calls, grant, if_pos hp]
  · obtain ⟨more, htrace, hmore⟩ := ofRoles_traced resolver rule u (rule.joinFor statement)
      (Role.distinct u.roles) s w hg hr []
    have hcalls : calls = more := by
      rw [List.nil_append] at hmore
      rcases hroles : g.ofRoles resolver.traced rule u (rule.joinFor statement)
        (Role.distinct u.roles) s ([], w) with ⟨e | _ | fs, s', w'⟩ <;>
        rw [hroles] at hmore <;>
        simpa only [calls, Granter.calls, grant, hp, hroles, Bool.false_eq_true, if_false]
          using hmore
    rw [hcalls]
    exact htrace
  · rw [hsession]
    exact ⟨rfl, rfl, rfl⟩

/-- A role that is there twice is asked for once, and none is asked for after one that nobody
knows. -/
theorem isTrace_calls_unknown_role :
    let rule : Rule := ⟨[⟨[("deptName", "dept")], none, by decide⟩], none, by decide⟩
    let u : User := ⟨.int 7, some 2,
      [⟨1, "dept", .dept⟩, ⟨1, "again", .own⟩, ⟨42, "ghost", .custom⟩, ⟨2, "admin", .all⟩],
      .empty, .empty⟩
    let resolver : Resolver Unit := fun role _ s w =>
      (if role.id = 42 then .error (.unknownRole role.key) else .ok ⟨role.scope, []⟩,
        s.setVariable "asked" (.value (.text role.key)), w)
    let s := (Session.ofUser u).push
    let calls := standard.calls resolver rule u .select s ()
    ofSettings .standard = .ok standard ∧ resolver.BindsOnly ∧ standard.isPrivileged u = false ∧
      calls.map (fun c => (c.role.key, c.before.depth)) = [("dept", 2), ("ghost", 2)] ∧
      standard.IsTrace rule u 2 (Role.distinct u.roles) calls := by
  intro rule u resolver s calls
  have hr : resolver.BindsOnly := fun role u s w => ⟨_, rfl⟩
  have hprivileged : standard.isPrivileged u = false := by decide +kernel
  exact ⟨ofSettings_standard, hr, hprivileged, by decide +kernel,
    (isTrace_calls resolver rule u s () ofSettings_standard hr .select).2.1 hprivileged⟩

end Granter

end RowScope
