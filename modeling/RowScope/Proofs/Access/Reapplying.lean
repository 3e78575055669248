/-
A statement that is enforced twice.

A statement may come to the rules again with the condition that they left it.  The user is
known by then, and what the rules add is there already.

* `Verdict.Repeats` — a verdict with the same outcome and a condition of the same meaning;
* `Verdict.ofGrant_repeats`, `Verdict.deny_repeats` — what is granted, or denied, once more
  changes nothing;
* `Enforcer.enforce_repeats` — enforcing a statement again repeats the verdict.

Design notes: the condition is not the same tree the second time, since what is granted stands
in it twice.  It has the same outcome on every row, also where that is unknown.
-/
import RowScope.Proofs.Access.Enforcement
import RowScope.Proofs.Access.Narrowing

namespace RowScope

variable {σ : Type}

/-- The outcome of the condition of a statement on a row; without a condition it holds. -/
def Filter.truthIf (f? : Option Filter) (row : Row) : Truth :=
  f?.elim .holds (truth row)

theorem Filter.truthIf_conjoin (existing : Option Filter) (f : Filter) (row : Row) :
    truthIf (some (conjoin existing f)) row = (truthIf existing row).and (f.truth row) :=
  truth_conjoin existing f row

theorem Truth.and_self (a : Truth) : a.and a = a := by
  cases a <;> rfl

namespace Verdict

/-- The outcome is the same, and so is what the condition says of every row. -/
def Repeats (v v' : Verdict) : Prop :=
  v.outcome = v'.outcome ∧ ∀ row, Filter.truthIf v.filter row = Filter.truthIf v'.filter row

theorem Repeats.refl (v : Verdict) : v.Repeats v :=
  ⟨rfl, fun _ => rfl⟩

/-- A condition that was added is there already. -/
theorem truthIf_conjoin_conjoin (existing : Option Filter) (f : Filter) (row : Row) :
    Filter.truthIf (some (.conjoin (some (.conjoin existing f)) f)) row
      = Filter.truthIf (some (.conjoin existing f)) row := by
  rw [Filter.truthIf_conjoin, Filter.truthIf_conjoin, Truth.and_assoc, Truth.and_self]

theorem deny_repeats (existing : Option Filter) :
    (deny (deny existing).filter).Repeats (deny existing) :=
  ⟨rfl, truthIf_conjoin_conjoin existing (.group .never)⟩

theorem ofGrant_repeats (existing : Option Filter) (grant : Except PolicyError Grant) :
    (ofGrant (ofGrant existing grant).filter grant).Repeats (ofGrant existing grant) := by
  rcases grant with err | grant
  · exact deny_repeats existing
  · cases grant with
    | privileged => exact .refl _
    | allRows => exact .refl _
    | noRoles => exact .refl _
    | rows f => exact ⟨rfl, truthIf_conjoin_conjoin existing f⟩

end Verdict

namespace Enforcer

variable {e : Enforcer σ} {s : Session} {w w' : σ}

/-- Under one rule the second verdict repeats the first, in the session that the first left,
and leaves that session as it is. -/
theorem enforceRule_repeats (he : e.IsFunction) (rule? : Option Rule) (existing : Option Filter)
    (statement : Statement) (s : Session) (w w' : σ) :
    let first := e.enforceRule rule? existing statement s w
    let second := e.enforceRule rule? first.1.filter statement first.2.1 w'
    second.1.Repeats first.1 ∧ second.2.1 = first.2.1 := by
  intro first second
  cases rule? with
  | none => exact ⟨.refl _, rfl⟩
  | some rule =>
    rcases hid : e.identify s w with ⟨answer, s', w₁⟩
    obtain ⟨-, w₂, hagain⟩ := identify_of_isFunction he hid w'
    have hfirst : first = e.enforceFor rule existing statement answer s' w₁ :=
      enforceRule_of_identify hid rule existing statement
    -- the session that is left is the one in which the user is known
    have hsession : first.2.1 = s' := by
      rw [hfirst]
      rcases answer with err | _ | u
      · rfl
      · rfl
      · exact (Granter.grant_of_isFunction he.resolver rule u statement s' w₁ w₁).2
    have hsecond : second = e.enforceFor rule first.1.filter statement answer s' w₂ := by
      show e.enforceRule (some rule) first.1.filter statement first.2.1 w' = _
      rw [hsession]
      exact enforceRule_of_identify hagain rule first.1.filter statement
    rw [hsession, hsecond, hfirst]
    rcases answer with err | _ | u
    · exact ⟨Verdict.deny_repeats existing, rfl⟩
    · exact ⟨.refl _, rfl⟩
    · obtain ⟨hgrant, -⟩ := Granter.grant_of_isFunction (g := e.granter) he.resolver rule u
        statement s' w₁ w₁
      obtain ⟨hgrant', hsession'⟩ := Granter.grant_of_isFunction (g := e.granter) he.resolver rule u
        statement s' w₁ w₂
      refine ⟨?_, hsession'⟩
      simp only [enforceFor, hgrant, hgrant']
      exact Verdict.ofGrant_repeats existing _

theorem enforce_of_none {query : String} {existing : Option Filter} {statement : Statement}
    (hs : s.forced = none) :
    e.enforce query existing statement s w =
      if s.isSuspended then (.pass existing .suspended, s, w)
      else e.enforceRule (e.rules.lookup query none) existing statement s w := by
  rw [enforce_eq, hs, Session.takeForced_of_none hs]
  rfl

/-- **Enforcing a statement again repeats the verdict**: the outcome is the same, and so is
what the condition says of every row.  The session stays as the first time left it. -/
theorem enforce_repeats (he : e.IsFunction) (query : String) (existing : Option Filter)
    (statement : Statement) (hs : s.forced = none) (w w' : σ) :
    let first := e.enforce query existing statement s w
    let second := e.enforce query first.1.filter statement first.2.1 w'
    second.1.Repeats first.1 ∧ second.2.1 = first.2.1 := by
  intro first second
  have hfirst : first = _ := enforce_of_none hs
  by_cases hsuspended : s.isSuspended = true
  · rw [if_pos hsuspended] at hfirst
    have hsecond : second = (.pass existing .suspended, s, w') := by
      show e.enforce query first.1.filter statement first.2.1 w' = _
      rw [hfirst, enforce_of_none hs, if_pos hsuspended]
      rfl
    rw [hsecond, hfirst]
    exact ⟨.refl _, rfl⟩
  · rw [if_neg hsuspended] at hfirst
    -- the rules are still not suspended, and no rule is forced
    obtain ⟨hforced, hdepth⟩ := session_enforceRule he.resolver.bindsOnly
      (e.rules.lookup query none) existing statement s w
    rw [← hfirst] at hforced hdepth
    have hstill : ¬first.2.1.isSuspended = true := by
      rw [Session.isSuspended, hdepth]
      exact hsuspended
    have hsecond : second = e.enforceRule (e.rules.lookup query none) first.1.filter statement
        first.2.1 w' := by
      show e.enforce query first.1.filter statement first.2.1 w' = _
      rw [enforce_of_none (hforced.trans hs), if_neg hstill]
    rw [hsecond, hfirst]
    exact enforceRule_repeats he _ existing statement s w w'

/-- A user who is looked up, with an order of an unknown department. -/
theorem enforce_repeats_unknown :
    let dept : Mapping := ⟨[("deptName", "dept")], none, by decide⟩
    let u : User := ⟨.int 7, some 2, [⟨2, "dept", .dept⟩], .empty, .empty⟩
    let e : Enforcer Unit := ⟨⟨KeyMap.empty.insert "orders" ⟨[dept], none, by decide⟩⟩, .standard,
      .ofFunction fun role _ => .ok ⟨role.scope, []⟩, some fun w => (.ok (some u), w)⟩
    let existing : Filter := .compareColumn "status" .eq (.text "open")
    let row : Row := [("dept", .null), ("status", .text "open")]
    let first := e.enforce "orders.list" (some existing) .select .start ()
    let second := e.enforce "orders.list" first.1.filter .select first.2.1 ()
    e.IsFunction ∧ Session.start.forced = none ∧ first.1.outcome = .filtered ∧
      Filter.truthIf first.1.filter row = .unknown ∧
      second.1.Repeats first.1 ∧ second.2.1 = first.2.1 := by
  intro dept u e existing row first second
  have he : e.IsFunction := by
    refine ⟨Resolver.isFunction_ofFunction _, fun lookup hlookup w w' => ?_⟩
    obtain rfl := Option.some.inj hlookup
    rfl
  exact ⟨he, rfl, by decide +kernel, by decide +kernel,
    enforce_repeats he "orders.list" (some existing) .select rfl () ()⟩

end Enforcer

end RowScope
