/-
What a session carries from one statement to the next.

A session outlives its statements: users sign in, the rules are suspended and taken up again,
and a rule is forced on the next statement.  What a statement finds in the session follows from
what happened before.

* `Enforcer.answers` — what the lookup answers while a statement is enforced;
* `Enforcer.enforce_recorded` — to write the answers down changes nothing;
* `Session.History` — what happened to a session, and what follows from it: the suspensions
  that are open, the rule that is forced, and whether the user is known;
* `Session.Run` — the sessions that histories lead to;
* `Session.Invariant` — a session holds what its history says, and every event keeps this so;
* `Session.isOrderly_of_run` — what a statement does after any history.

Design notes: the stores of the resolver and of the lookup may change at any time between two
statements, so a run does not carry them along: each statement finds any store.
-/
import RowScope.Proofs.Access.Enforcement

namespace RowScope

variable {σ τ : Type}

/-- What a lookup answered, in order. -/
abbrev Answers := List (Except ResolveError (Option User))

/-- The resolver in a store with something else in it, which it leaves alone. -/
def Resolver.beside (r : Resolver σ) : Resolver (τ × σ) :=
  fun role u s (x, w) =>
    let (answer, s, w) := r role u s w
    (answer, s, (x, w))

/-- A resolver answers alike with something else in the store. -/
theorem Resolver.beside_simulates (r : Resolver σ) (x : τ) :
    r.beside.Simulates r fun y z => y = (z.1, (x, z.2)) where
  bindings := by
    rintro _ z rfl
    rfl
  answers := by
    rintro _ z rfl role u
    exact ⟨rfl, rfl⟩

/-- The lookup with the list of its answers. -/
def Lookup.recorded (lookup : Lookup σ) : Lookup (Answers × σ) :=
  fun (answers, w) =>
    let (answer, w) := lookup w
    (answer, (answers ++ [answer], w))

namespace Verdict

variable {existing : Option Filter} {grant : Except PolicyError Grant}

theorem outcome_ofGrant_ne : (ofGrant existing grant).outcome ≠ .passed .suspended := by
  rcases grant with err | grant
  · simp [ofGrant, deny]
  · cases grant <;> simp [ofGrant, pass]

end Verdict

namespace Enforcer

variable {e : Enforcer σ} {query : String} {existing : Option Filter} {statement : Statement}
  {rule? : Option Rule} {s : Session} {w : σ}

/-- The enforcer with the list of what its lookup answered. -/
def recorded (e : Enforcer σ) : Enforcer (Answers × σ) :=
  ⟨e.rules, e.granter, e.resolver.beside, e.lookup?.map Lookup.recorded⟩

/-- What the lookup answers while a statement is enforced. -/
def answers (e : Enforcer σ) (query : String) (existing : Option Filter) (statement : Statement)
    (s : Session) (w : σ) : Answers :=
  (e.recorded.enforce query existing statement s ([], w)).2.2.1

/-- The rule that a statement follows in a session, if the rules are not suspended. -/
def ruleFor? (e : Enforcer σ) (query : String) (s : Session) : Option Rule :=
  if s.isSuspended then none else s.forced.or (e.rules.lookup query none)

/-- What the lookup answers when the user of a session is looked for: it is asked once if the
session does not know. -/
def lookedUp (e : Enforcer σ) (s : Session) (w : σ) : Answers :=
  if s.actor.isResolved then [] else (e.lookup?.map fun lookup => (lookup w).1).toList

theorem identify_recorded (e : Enforcer σ) (s : Session) (log : Answers) (w : σ) :
    e.recorded.identify s (log, w)
      = ((e.identify s w).1, (e.identify s w).2.1,
          (log ++ e.lookedUp s w, (e.identify s w).2.2)) := by
  unfold identify lookedUp
  cases s.actor with
  | anonymous => simp [Actor.isResolved]
  | user u => simp [Actor.isResolved]
  | unresolved =>
    cases hlookup : e.lookup? with
    | none => simp [recorded, hlookup, Actor.isResolved]
    | some lookup =>
      rcases hanswer : lookup w with ⟨err | u, w'⟩
      · simp [recorded, hlookup, hanswer, Lookup.recorded, Actor.isResolved]
      · simp [recorded, hlookup, hanswer, Lookup.recorded, Actor.isResolved]

theorem enforceFor_recorded (e : Enforcer σ) (rule : Rule) (existing : Option Filter)
    (statement : Statement) (answer : Except ResolveError (Option User)) (s : Session)
    (log : Answers) (w : σ) :
    e.recorded.enforceFor rule existing statement answer s (log, w)
      = ((e.enforceFor rule existing statement answer s w).1,
          (e.enforceFor rule existing statement answer s w).2.1,
          (log, (e.enforceFor rule existing statement answer s w).2.2)) := by
  rcases answer with err | _ | u
  · rfl
  · rfl
  · obtain ⟨hgrant, hafter⟩ := Granter.grant_of_simulates (g := e.granter) (x := (s, (log, w)))
      (y := (s, w)) (e.resolver.beside_simulates log) rfl rule u statement
    simp only [enforceFor]
    rw [show e.recorded.granter.grant e.recorded.resolver rule u statement s (log, w)
      = e.granter.grant e.resolver.beside rule u statement s (log, w) from rfl, hgrant, hafter]

/-- Under a rule the user of the session is looked for. -/
theorem enforceRule_recorded (e : Enforcer σ) (rule? : Option Rule) (existing : Option Filter)
    (statement : Statement) (s : Session) (log : Answers) (w : σ) :
    e.recorded.enforceRule rule? existing statement s (log, w)
      = ((e.enforceRule rule? existing statement s w).1,
          (e.enforceRule rule? existing statement s w).2.1,
          (log ++ if rule?.isSome then e.lookedUp s w else [],
            (e.enforceRule rule? existing statement s w).2.2)) := by
  cases rule? with
  | none =>
    rw [if_neg (by simp), List.append_nil]
    rfl
  | some rule =>
    rw [if_pos Option.isSome_some, enforceRule_of_identify (e.identify_recorded s log w),
      enforceFor_recorded]
    rfl

/-- **To write the answers of the lookup down changes nothing.**  The lookup is asked if the
statement follows a rule and the session does not know the user. -/
theorem enforce_recorded (e : Enforcer σ) (query : String) (existing : Option Filter)
    (statement : Statement) (s : Session) (log : Answers) (w : σ) :
    e.recorded.enforce query existing statement s (log, w)
      = ((e.enforce query existing statement s w).1, (e.enforce query existing statement s w).2.1,
          (log ++ if (e.ruleFor? query s).isSome then e.lookedUp s w else [],
            (e.enforce query existing statement s w).2.2)) := by
  rw [enforce_eq, enforce_eq, ruleFor?]
  by_cases hsuspended : s.isSuspended = true
  · rw [if_pos hsuspended, if_pos hsuspended, if_pos hsuspended, if_neg (by simp),
      List.append_nil]
  · rw [if_neg hsuspended, if_neg hsuspended, if_neg hsuspended]
    exact enforceRule_recorded e _ existing statement s.takeForced.2 log w

theorem answers_eq (e : Enforcer σ) (query : String) (existing : Option Filter)
    (statement : Statement) (s : Session) (w : σ) :
    e.answers query existing statement s w
      = if (e.ruleFor? query s).isSome then e.lookedUp s w else [] := by
  rw [answers, enforce_recorded]
  exact List.nil_append _

theorem enforce_of_ruleFor?_none (h : e.ruleFor? query s = none) :
    ∃ reason, e.enforce query existing statement s w
      = (.pass existing reason, s.takeForced.2, w) := by
  rw [enforce_eq]
  by_cases hsuspended : s.isSuspended = true
  · exact ⟨.suspended, if_pos hsuspended⟩
  · rw [ruleFor?, if_neg hsuspended] at h
    rw [if_neg hsuspended, h]
    exact ⟨.noRule, rfl⟩

theorem enforce_of_ruleFor? {rule : Rule} (h : e.ruleFor? query s = some rule) :
    e.enforce query existing statement s w
      = e.enforceRule (some rule) existing statement s.takeForced.2 w := by
  rw [enforce_eq]
  by_cases hsuspended : s.isSuspended = true
  · rw [ruleFor?, if_pos hsuspended] at h
    exact absurd h (by simp)
  · rw [ruleFor?, if_neg hsuspended] at h
    rw [if_neg hsuspended, h]

/-- The lookup is asked once or not at all: if the statement follows a rule, and the session
does not know the user. -/
theorem answers_cases (e : Enforcer σ) (query : String) (existing : Option Filter)
    (statement : Statement) (s : Session) (w : σ) :
    (e.answers query existing statement s w = [] ∧
      ¬(e.lookup?.isSome ∧ (e.ruleFor? query s).isSome ∧ s.actor.isResolved = false)) ∨
    ∃ rule lookup, e.ruleFor? query s = some rule ∧ e.lookup? = some lookup ∧
      s.actor.isResolved = false ∧ e.answers query existing statement s w = [(lookup w).1] := by
  rw [answers_eq, lookedUp]
  cases hrule : e.ruleFor? query s with
  | none => exact .inl ⟨rfl, by simp⟩
  | some rule =>
    cases hknown : s.actor.isResolved with
    | true => exact .inl ⟨rfl, by simp⟩
    | false =>
      cases hlookup : e.lookup? with
      | none => exact .inl ⟨rfl, by simp⟩
      | some lookup => exact .inr ⟨rule, lookup, rfl, rfl, rfl, rfl⟩

/-- A lookup that fails leaves no row, and the session does not know the user afterwards
either. -/
theorem enforce_of_error_mem {err : ResolveError}
    (h : .error err ∈ e.answers query existing statement s w) :
    (e.enforce query existing statement s w).1 = .deny existing ∧
      (e.enforce query existing statement s w).2.1 = s.takeForced.2 := by
  rcases e.answers_cases query existing statement s w with
    ⟨hnil, -⟩ | ⟨rule, lookup, hrule, hlookup, hunknown, hone⟩
  · rw [hnil] at h
    exact absurd h (by simp)
  · rw [hone] at h
    have herr : (lookup w).1 = .error err := (List.mem_singleton.1 h).symm
    have hid := identify_of_lookup (s := s.takeForced.2) hlookup hunknown w
    rw [herr] at hid
    rw [enforce_of_ruleFor? hrule, enforceRule_of_identify hid]
    exact ⟨rfl, rfl⟩

/-- No statement leaves a forced rule, or changes the suspensions. -/
theorem session_enforce (hr : e.resolver.BindsOnly) (query : String) (existing : Option Filter)
    (statement : Statement) (s : Session) (w : σ) :
    (e.enforce query existing statement s w).2.1.forced = none ∧
      (e.enforce query existing statement s w).2.1.depth = s.depth := by
  cases hrule : e.ruleFor? query s with
  | none =>
    obtain ⟨reason, henforce⟩ := enforce_of_ruleFor?_none hrule
    rw [henforce]
    exact ⟨rfl, rfl⟩
  | some rule =>
    rw [enforce_of_ruleFor? hrule]
    exact session_enforceRule hr (some rule) existing statement s.takeForced.2 w

/-- The session knows the user that was looked for if it did before, or if the lookup did. -/
theorem isResolved_identify {lookup : Lookup σ} (hlookup : e.lookup? = some lookup) (s : Session)
    (w : σ) :
    (e.identify s w).2.1.actor.isResolved
      = (s.actor.isResolved || (e.lookedUp s w).any Except.isOk) := by
  cases hknown : s.actor.isResolved with
  | true =>
    rw [identify_of_isResolved hknown]
    exact hknown
  | false =>
    have hasked : e.lookedUp s w = [(lookup w).1] := by
      rw [lookedUp, hknown, hlookup]
      rfl
    rw [identify_of_lookup hlookup hknown, hasked]
    rcases (lookup w).1 with err | u
    · exact hknown
    · exact Session.isResolved_signIn s u

/-- The session knows the user after a statement if it did before, or if the lookup did. -/
theorem isResolved_enforce (hr : e.resolver.BindsOnly) (hlookup : e.lookup?.isSome = true)
    (query : String) (existing : Option Filter) (statement : Statement) (s : Session) (w : σ) :
    (e.enforce query existing statement s w).2.1.actor.isResolved
      = (s.actor.isResolved || (e.answers query existing statement s w).any Except.isOk) := by
  rw [answers_eq]
  cases hrule : e.ruleFor? query s with
  | none =>
    obtain ⟨reason, henforce⟩ := enforce_of_ruleFor?_none hrule
    rw [henforce]
    exact (Bool.or_false _).symm
  | some rule =>
    obtain ⟨lookup, hlookup⟩ := Option.isSome_iff_exists.1 hlookup
    -- what becomes of the statement does not change the user that was found
    obtain ⟨bindings, hafter⟩ := session_enforceFor hr rule existing statement
      (e.identify s.takeForced.2 w).1 (e.identify s.takeForced.2 w).2.1
      (e.identify s.takeForced.2 w).2.2
    rw [enforce_of_ruleFor? hrule, enforceRule, hafter, if_pos Option.isSome_some]
    exact isResolved_identify hlookup s.takeForced.2 w

theorem outcome_enforceRule_ne :
    (e.enforceRule rule? existing statement s w).1.outcome ≠ .passed .suspended := by
  cases rule? with
  | none => simp [enforceRule, Verdict.pass]
  | some rule =>
    rcases hid : e.identify s w with ⟨err | _ | u, s', w'⟩
    · simp [enforceRule_of_identify hid, enforceFor, Verdict.deny]
    · simp [enforceRule_of_identify hid, enforceFor, Verdict.pass]
    · rw [enforceRule_of_identify hid]
      exact Verdict.outcome_ofGrant_ne

/-- A statement passes for the rules being suspended if they are. -/
theorem outcome_eq_suspended_iff (e : Enforcer σ) (query : String) (existing : Option Filter)
    (statement : Statement) (s : Session) (w : σ) :
    (e.enforce query existing statement s w).1.outcome = .passed .suspended ↔ 0 < s.depth := by
  rw [enforce_eq]
  by_cases hsuspended : s.isSuspended = true
  · rw [if_pos hsuspended]
    have hdepth : 0 < s.depth := by simpa [Session.isSuspended] using hsuspended
    exact ⟨fun _ => hdepth, fun _ => rfl⟩
  · rw [if_neg hsuspended]
    have hdepth : ¬0 < s.depth := by simpa [Session.isSuspended] using hsuspended
    exact ⟨fun h => absurd h outcome_enforceRule_ne, fun h => absurd h hdepth⟩

end Enforcer

namespace Session

/-- What can happen to a session. -/
inductive Event where
  -- A user signs in, or it is known that nobody does.
  | signIn (u : Option User)
  | setVariable (name : String) (b : Binding)
  -- The rules are suspended once more.
  | push
  -- One suspension ends.
  | pop
  -- A rule is forced on the next statement.
  | force (rule : Rule)
  -- The forced rule is taken back.
  | takeForced
  -- The session starts anew.
  | reset
  -- A statement is enforced, and the lookup answers meanwhile.
  | enforce (answers : Answers)

namespace Event

def isReset : Event → Bool
  | reset => true
  | _ => false

/-- Whether no rule is forced any more after the event, whatever was forced before. -/
def endsForce : Event → Bool
  | enforce _ | takeForced | reset => true
  | _ => false

def forced? : Event → Option Rule
  | force rule => some rule
  | _ => none

/-- Whether it is known after the event who the user is, or that there is none. -/
def tellsActor : Event → Bool
  | signIn _ => true
  | enforce answers => answers.any Except.isOk
  | _ => false

end Event

/-- What happened to a session, the last event first. -/
abbrev History := List Event

namespace History

/-- The suspensions that are open.  An end without a beginning does not count. -/
def depth : History → Nat
  | [] => 0
  | .push :: es => depth es + 1
  | .pop :: es => depth es - 1
  | .reset :: _ => 0
  | _ :: es => depth es

/-- The last rule that was forced, if nothing ended its force. -/
def forced? (es : History) : Option Rule :=
  (es.takeWhile fun event => !event.endsForce).findSome? Event.forced?

/-- Whether it is known who the user is, from the events since the last reset. -/
def knowsActor (es : History) : Bool :=
  (es.takeWhile fun event => !event.isReset).any Event.tellsActor

/-- What a lookup found out is known as long as the session does not start anew. -/
theorem knowsActor_append {later earlier : History} {answers : Answers} {u : Option User}
    (hreset : .reset ∉ later) (h : .ok u ∈ answers) :
    knowsActor (later ++ .enforce answers :: earlier) = true := by
  have hlater : ∀ event ∈ later, (!event.isReset) = true := by
    intro event hevent
    cases event with
    | reset => exact absurd hevent hreset
    | _ => rfl
  rw [knowsActor, List.takeWhile_append_of_pos hlater, List.any_append, Bool.or_eq_true]
  right
  have htells : (Event.enforce answers).tellsActor = true := List.any_eq_true.2 ⟨_, h, rfl⟩
  have hkept : (Event.enforce answers :: earlier).takeWhile (fun event => !event.isReset)
      = .enforce answers :: earlier.takeWhile fun event => !event.isReset := rfl
  rw [hkept, List.any_cons, htells]
  rfl

end History

section Runs

variable (e : Enforcer σ)

/-- One event. -/
inductive Step : Session → Event → Session → Prop
  | signIn (s : Session) (u : Option User) : Step s (.signIn u) (s.signIn u)
  | setVariable (s : Session) (name : String) (b : Binding) :
      Step s (.setVariable name b) (s.setVariable name b)
  | push (s : Session) : Step s .push s.push
  | pop (s : Session) : Step s .pop s.pop
  | force (s : Session) (rule : Rule) : Step s (.force rule) (s.force rule)
  | takeForced (s : Session) : Step s .takeForced s.takeForced.2
  | reset (s : Session) : Step s .reset .start
  | enforce (s : Session) (query : String) (existing : Option Filter) (statement : Statement)
      (w : σ) : Step s (.enforce (e.answers query existing statement s w))
        (e.enforce query existing statement s w).2.1

/-- A session that starts, and what happens to it. -/
inductive Run : History → Session → Prop
  | start : Run [] .start
  | step {es : History} {event : Event} {s s' : Session} (h : Run es s)
      (hstep : Step e s event s') : Run (event :: es) s'

/-- A session holds what its history says.  Without a lookup it does not matter what is known
of the user, since nobody is asked. -/
structure Invariant (es : History) (s : Session) : Prop where
  depth : s.depth = es.depth
  forced : s.forced = es.forced?
  actor : e.lookup?.isSome = true → s.actor.isResolved = es.knowsActor

/-- What can be said of a statement after a history. -/
structure IsOrderly (es : History) (s : Session) : Prop where
  -- The suspensions of the session are those that are open.
  depth : s.depth = es.depth
  -- The statement follows the rule that was forced last, or else the registered one.
  follows : ∀ query existing statement w, es.depth = 0 →
    e.enforce query existing statement s w
      = e.enforceRule (es.forced?.or (e.rules.lookup query none)) existing statement
          s.takeForced.2 w
  -- No rule is forced on the statement that comes next.
  usesUp : ∀ query existing statement w,
    (e.enforce query existing statement s w).2.1.forced = none
  -- The lookup is asked if the statement follows a rule and the user is not known, and not
  -- more than once.
  asks : ∀ query existing statement w,
    e.answers query existing statement s w ≠ [] ↔ e.lookup?.isSome = true ∧ es.depth = 0 ∧
      (es.forced?.or (e.rules.lookup query none)).isSome = true ∧ es.knowsActor = false
  once : ∀ query existing statement w, (e.answers query existing statement s w).length ≤ 1
  -- What the lookup found out is known until the session starts anew.
  remembers : ∀ later earlier answers u, es = later ++ .enforce answers :: earlier →
    .ok u ∈ answers → .reset ∉ later →
    ∀ query existing statement w, e.answers query existing statement s w = []
  -- If the lookup fails no row is left, and nothing is remembered.
  fails : ∀ query existing statement w err,
    .error err ∈ e.answers query existing statement s w →
      (e.enforce query existing statement s w).1 = .deny existing ∧
        (e.enforce query existing statement s w).2.1 = s.takeForced.2
  -- The statement leaves the suspensions as they are, and passes if there are any.
  keeps : ∀ query existing statement w,
    (e.enforce query existing statement s w).2.1.depth = s.depth
  passes : ∀ query existing statement w,
    (e.enforce query existing statement s w).1.outcome = .passed .suspended ↔ 0 < es.depth

variable {e} {es : History} {event : Event} {s s' : Session}

theorem invariant_start : Invariant e [] .start :=
  ⟨rfl, rfl, fun _ => rfl⟩

/-- Every event keeps the invariant. -/
theorem Invariant.step (hr : e.resolver.BindsOnly) (h : Invariant e es s)
    (hstep : Step e s event s') : Invariant e (event :: es) s' := by
  cases hstep with
  | signIn u => exact ⟨h.depth, h.forced, fun _ => isResolved_signIn s u⟩
  | setVariable name b => exact ⟨h.depth, h.forced, h.actor⟩
  | push => exact ⟨congrArg (· + 1) h.depth, h.forced, h.actor⟩
  | pop => exact ⟨congrArg (· - 1) h.depth, h.forced, h.actor⟩
  | force rule => exact ⟨h.depth, rfl, h.actor⟩
  | takeForced => exact ⟨h.depth, rfl, h.actor⟩
  | reset => exact ⟨rfl, rfl, fun _ => rfl⟩
  | enforce query existing statement w =>
    obtain ⟨hforced, hdepth⟩ := Enforcer.session_enforce hr query existing statement s w
    refine ⟨hdepth.trans h.depth, hforced, fun hlookup => ?_⟩
    have hknows : History.knowsActor (.enforce (e.answers query existing statement s w) :: es)
        = ((e.answers query existing statement s w).any Except.isOk || es.knowsActor) := rfl
    rw [Enforcer.isResolved_enforce hr hlookup, h.actor hlookup, hknows, Bool.or_comm]

theorem Run.invariant (hr : e.resolver.BindsOnly) (h : Run e es s) : Invariant e es s := by
  induction h with
  | start => exact invariant_start
  | step _ hstep ih => exact ih.step hr hstep

/-- The rule that a statement follows, from the history. -/
theorem Invariant.ruleFor? (h : Invariant e es s) (query : String) :
    e.ruleFor? query s
      = if 0 < es.depth then none else es.forced?.or (e.rules.lookup query none) := by
  rw [Enforcer.ruleFor?, isSuspended, h.depth, h.forced]
  simp only [decide_eq_true_eq]

theorem Invariant.asks (h : Invariant e es s) (query : String) (existing : Option Filter)
    (statement : Statement) (w : σ) :
    e.answers query existing statement s w ≠ [] ↔ e.lookup?.isSome = true ∧ es.depth = 0 ∧
      (es.forced?.or (e.rules.lookup query none)).isSome = true ∧ es.knowsActor = false := by
  have hrule : (e.ruleFor? query s).isSome = true ↔
      es.depth = 0 ∧ (es.forced?.or (e.rules.lookup query none)).isSome = true := by
    rw [h.ruleFor? query]
    by_cases hdepth : 0 < es.depth
    · rw [if_pos hdepth]
      simp [Nat.ne_of_gt hdepth]
    · rw [if_neg hdepth]
      simp [Nat.eq_zero_of_not_pos hdepth]
  rcases e.answers_cases query existing statement s w with
    ⟨hnil, hnot⟩ | ⟨rule, lookup, hsome, hlookup, hunknown, hone⟩
  · refine ⟨fun hne => absurd hnil hne, fun ⟨hlookup, hdepth, hfollows, hunknown⟩ => ?_⟩
    refine absurd ⟨hlookup, hrule.2 ⟨hdepth, hfollows⟩, ?_⟩ hnot
    rw [h.actor hlookup, hunknown]
  · have hlookup : e.lookup?.isSome = true := Option.isSome_iff_exists.2 ⟨lookup, hlookup⟩
    obtain ⟨hdepth, hfollows⟩ := hrule.1 (Option.isSome_iff_exists.2 ⟨rule, hsome⟩)
    refine ⟨fun _ => ⟨hlookup, hdepth, hfollows, ?_⟩, fun _ => ?_⟩
    · rw [← h.actor hlookup, hunknown]
    · rw [hone]
      exact List.cons_ne_nil _ _

/-- **After any history a statement does what the history says**: it follows the rule that was
forced last, it asks for the user only if nobody knows, and it leaves the suspensions alone. -/
theorem isOrderly_of_run (hr : e.resolver.BindsOnly) (h : Run e es s) : IsOrderly e es s := by
  have hinv := h.invariant hr
  have hkeeps := Enforcer.session_enforce hr
  refine ⟨hinv.depth, ?_, fun query existing statement w => (hkeeps query existing statement s w).1,
    hinv.asks, ?_, ?_, fun _ _ _ _ _ => Enforcer.enforce_of_error_mem,
    fun query existing statement w => (hkeeps query existing statement s w).2, ?_⟩
  · intro query existing statement w hdepth
    have hopen : ¬s.isSuspended = true := by
      simp [isSuspended, hinv.depth, hdepth]
    rw [Enforcer.enforce_eq, if_neg hopen, hinv.forced]
  · intro query existing statement w
    rcases e.answers_cases query existing statement s w with ⟨hnil, -⟩ | ⟨_, _, -, -, -, hone⟩
    · rw [hnil]
      exact Nat.zero_le 1
    · rw [hone]
      exact le_refl 1
  · intro later earlier answers u hes hu hreset query existing statement w
    have hknows : es.knowsActor = true := by
      rw [hes]
      exact History.knowsActor_append hreset hu
    by_contra hasked
    obtain ⟨-, -, -, hunknown⟩ := (hinv.asks query existing statement w).1 hasked
    exact absurd (hknows.symm.trans hunknown) (by simp)
  · intro query existing statement w
    rw [← hinv.depth]
    exact e.outcome_eq_suspended_iff query existing statement s w

end Runs

/-- A lookup that fails at first, under a rule that was forced in its place. -/
theorem isOrderly_of_run_retry :
    let dept : Mapping := ⟨[("deptName", "dept")], none, by decide⟩
    let own : Mapping := ⟨[("userName", "owner")], none, by decide⟩
    let u : User := ⟨.int 7, some 2, [⟨2, "dept", .dept⟩], .empty, .empty⟩
    let e : Enforcer Nat := ⟨⟨KeyMap.empty.insert "orders" ⟨[dept], none, by decide⟩⟩, .standard,
      .ofFunction fun role _ => .ok ⟨role.scope, []⟩,
      some fun n => (if n = 0 then .error (.user "timeout") else .ok (some u), n + 1)⟩
    let forced : Rule := ⟨[own], none, by decide⟩
    let s := Session.start.push.pop.force forced
    let first := e.enforce "orders.list" none .select s 0
    let second := e.enforce "orders.list" none .select first.2.1 first.2.2
    let es : History := [.enforce (e.answers "orders.list" none .select first.2.1 first.2.2),
      .enforce (e.answers "orders.list" none .select s 0), .force forced, .pop, .push]
    e.resolver.BindsOnly ∧ Run e es second.2.1 ∧ first.1.outcome = .denied ∧
      second.1.outcome = .filtered ∧ es.knowsActor = true ∧ IsOrderly e es second.2.1 := by
  intro dept own u e forced s first second es
  have hr : e.resolver.BindsOnly := (Resolver.isFunction_ofFunction _).bindsOnly
  have hforce : Run e [.force forced, .pop, .push] s :=
    ((Run.start.step (.push _)).step (.pop _)).step (.force _ forced)
  have hfirst : Run e (es.drop 1) first.2.1 :=
    hforce.step (.enforce s "orders.list" none .select 0)
  have hrun : Run e es second.2.1 :=
    hfirst.step (.enforce first.2.1 "orders.list" none .select first.2.2)
  exact ⟨hr, hrun, by decide +kernel, by decide +kernel, by decide +kernel,
    isOrderly_of_run hr hrun⟩

end Session

end RowScope
