/-
A remembered resolution is never out of date.

A cache asks a resolver once for what several roles or users have in common.  What the resolver
answers may change in the meantime; whoever changes it clears the cache at once, or forgets the
role whose departments are others now.

* `Resolver.AnswersIn` — what a resolver answers in each store;
* `Cache.IsKeyed` — the ids of a role depend on its key alone;
* `Cache.IsCurrent` — what is remembered is what is answered;
* `Cache.Run` — what can happen to a cache, one event after the other;
* `Cache.Invariant` — what is remembered is what the resolver answers, and every event keeps
  this so;
* `Cache.isTransparent_of_run` — a role is answered as without the cache, after any events;
* `Resolver.AnswersIn.cached_simulates` — a resolver answers alike with a cache around it.

Design notes: the error for a role may name it, so two roles of one key may fail in different
words.  This does no harm, since no error is remembered.  The calls of the resolver are written
down in its store, which is how they are counted.
-/
import RowScope.Access.Cache
import RowScope.Access.Directory
import RowScope.Proofs.Access.Simulation
import RowScope.Proofs.Sequences

namespace RowScope

variable {σ : Type}

namespace Resolver

/-- What a resolver answers in each store.  It leaves the session alone, and asking it does not
change what it answers. -/
structure AnswersIn (r : Resolver σ) (answer : σ → Role → User → Except ResolveError Resolution) :
    Prop where
  answers : ∀ role user s w, (r role user s w).1 = answer w role user
  session : ∀ role user s w, (r role user s w).2.1 = s
  store : ∀ role user s w, answer (r role user s w).2.2 = answer w

/-- The resolver with the list of what it was asked for. -/
def recorded (r : Resolver σ) : Resolver (List (Role × User) × σ) :=
  fun role user s (calls, w) =>
    let (answer, s, w) := r role user s w
    (answer, s, (calls ++ [(role, user)], w))

variable {r : Resolver σ} {answer : σ → Role → User → Except ResolveError Resolution} {role : Role}
  {user : User}

theorem AnswersIn.recorded (hr : r.AnswersIn answer) :
    r.recorded.AnswersIn fun x => answer x.2 where
  answers role user s x := hr.answers role user s x.2
  session role user s x := hr.session role user s x.2
  store role user s x := hr.store role user s x.2

/-- All that asking a cached resolver can come to: the role has no ids, they are remembered, or
they are asked for, with or without success. -/
theorem cached_cases {s s' : Session} {c : Cache} {w w' : σ}
    {answer : Except ResolveError Resolution} (h : r role user s w = (answer, s', w')) :
    (Cache.key? role user = none ∧ r.cached role user s (c, w) = (answer, s', (c, w'))) ∨
    ∃ k, Cache.key? role user = some k ∧
      ((∃ x, c.found.find? k = some x ∧
          r.cached role user s (c, w) = (.ok x, s, (c.hit, w))) ∨
        (c.found.find? k = none ∧
          r.cached role user s (c, w)
            = (answer, s', (answer.toOption.elim c.miss (c.miss.store k), w')))) := by
  unfold cached
  cases hk : Cache.key? role user with
  | none => exact .inl ⟨rfl, by simp only [h]⟩
  | some k =>
    refine .inr ⟨k, rfl, ?_⟩
    cases hx : c.found.find? k with
    | some x => exact .inl ⟨x, rfl, by simp only [hx]⟩
    | none =>
      refine .inr ⟨rfl, ?_⟩
      cases answer with
      | ok x => simp only [hx, h]; rfl
      | error e => simp only [hx, h]; rfl

/-- All that asking for a role can come to, with the answers of the resolver. -/
theorem AnswersIn.cached_cases (hr : r.AnswersIn answer) (role : Role) (user : User) (s : Session)
    (x : Cache × σ) :
    (Cache.key? role user = none ∧ r.cached role user s x
        = (answer x.2 role user, s, (x.1, (r role user s x.2).2.2))) ∨
      ∃ k, Cache.key? role user = some k ∧
        ((∃ resolution, x.1.found.find? k = some resolution ∧
            r.cached role user s x = (.ok resolution, s, (x.1.hit, x.2))) ∨
          (x.1.found.find? k = none ∧ r.cached role user s x
            = (answer x.2 role user, s,
              ((answer x.2 role user).toOption.elim x.1.miss (x.1.miss.store k),
                (r role user s x.2).2.2)))) := by
  have hask : r role user s x.2 = (answer x.2 role user, s, (r role user s x.2).2.2) :=
    Prod.ext (hr.answers role user s x.2) (Prod.ext (hr.session role user s x.2) rfl)
  exact Resolver.cached_cases hask

end Resolver

namespace Cache

/-- Whether a cache is concerned with the ids of a role of a user: of a list of departments
always, and of a tree if the user has a department. -/
def concerns (role : Role) (user : User) : Bool :=
  match role.scope with
  | .custom => true
  | .deptAndChild | .deptAndChildOrOwn => user.department.isSome
  | .all | .dept | .own => false

theorem isSome_key? (role : Role) (user : User) :
    (key? role user).isSome = concerns role user := by
  unfold key? concerns
  cases role.scope with
  | deptAndChild => exact Option.isSome_map
  | deptAndChildOrOwn => exact Option.isSome_map
  | _ => rfl

theorem scope_of_key? {role : Role} {user : User} {id : Int64}
    (h : key? role user = some (.role id)) : role.scope = .custom ∧ role.id = id := by
  unfold key? at h
  cases hs : role.scope with
  | custom =>
    rw [hs] at h
    exact ⟨rfl, CacheKey.role.inj (Option.some.inj h)⟩
  | deptAndChild | deptAndChildOrOwn =>
    rw [hs] at h
    obtain ⟨_, -, h⟩ := Option.map_eq_some_iff.1 h
    cases h
  | all | dept | own =>
    rw [hs] at h
    cases h

theorem key?_of_custom {role : Role} (user : User) (h : role.scope = .custom) :
    key? role user = some (.role role.id) := by
  rw [key?, h]

theorem of_key?_tree {role : Role} {user : User} {scope : Scope} {department : Int64}
    (h : key? role user = some (.tree scope department)) :
    role.scope = scope ∧ (scope = .deptAndChild ∨ scope = .deptAndChildOrOwn) ∧
      user.department = some department := by
  unfold key? at h
  cases hs : role.scope with
  | deptAndChild | deptAndChildOrOwn =>
    rw [hs] at h
    obtain ⟨d, hd, h⟩ := Option.map_eq_some_iff.1 h
    obtain ⟨rfl, rfl⟩ := CacheKey.tree.inj h
    exact ⟨rfl, by simp, hd⟩
  | custom | all | dept | own =>
    rw [hs] at h
    cases h

/-- The ids of a role depend on its key alone: on the id of the role for a list of departments,
and on the scope and the department of the user for a tree. -/
def IsKeyed (answer : Role → User → Except ResolveError Resolution) : Prop :=
  ∀ role user role' user' k, key? role user = some k → key? role' user' = some k →
    (answer role user).toOption = (answer role' user').toOption

/-- What is remembered is what a function answers. -/
def IsCurrent (answer : Role → User → Except ResolveError Resolution) (c : Cache) : Prop :=
  ∀ k resolution, c.found.find? k = some resolution →
    ∀ role user, key? role user = some k → answer role user = .ok resolution

section Current

variable {answer : Role → User → Except ResolveError Resolution} {c : Cache}

theorem isCurrent_empty : IsCurrent answer empty :=
  fun k _ h => absurd h (by simp [empty, KeyMap.empty, KeyMap.find?])

/-- What is answered for a role may be remembered for all roles of its key. -/
theorem IsCurrent.learn (h : c.IsCurrent answer) (hkeyed : IsKeyed answer) {role : Role}
    {user : User} {k : CacheKey} (hk : key? role user = some k) :
    IsCurrent answer ((answer role user).toOption.elim c.miss (c.miss.store k)) := by
  rcases ha : answer role user with e | resolution
  · exact h
  · intro k' resolution' hfind role' user' hk'
    have hfind : (c.found.insert k resolution).find? k' = some resolution' := hfind
    rw [KeyMap.find?_insert] at hfind
    split at hfind
    · next heq =>
      -- the roles of this key are answered as the one that was asked for
      obtain rfl := Option.some.inj hfind
      have hsame := hkeyed role' user' role user k (heq ▸ hk') hk
      rw [ha] at hsame
      exact Except.toOption_eq_some_iff.1 hsame
    · exact h k' resolution' hfind role' user' hk'

end Current

/-- What can happen to a cache and the store of its resolver. -/
inductive Event where
  -- A role of a user is asked for.
  | resolve (role : Role) (user : User)
  -- Everything is forgotten.
  | clear
  -- The departments of a role are forgotten.
  | forget (role : Int64)
  -- The store changes, and everything is forgotten at once.
  | reorganise
  -- The departments of a role change in the store, and they are forgotten at once.
  | regrant (role : Int64)

/-- Whether a role is asked for that a cache is concerned with. -/
def Event.isConcern : Event → Bool
  | resolve role user => concerns role user
  | _ => false

/-- A cache, what its resolver was asked for, and the store of the resolver. -/
abbrev State (σ : Type) := Cache × List (Role × User) × σ

/-- Answers that are the same but for the departments of one role. -/
def AgreeBut (role : Int64) (answer answer' : Role → User → Except ResolveError Resolution) :
    Prop :=
  ∀ r u, ¬(r.scope = .custom ∧ r.id = role) → answer' r u = answer r u

section Runs

variable (r : Resolver σ) (answer : σ → Role → User → Except ResolveError Resolution)

/-- One event. -/
inductive Step : State σ → Event → State σ → Prop
  | resolve (x : State σ) (role : Role) (user : User) (s : Session) :
      Step x (.resolve role user) (r.recorded.cached role user s x).2.2
  | clear (c : Cache) (calls : List (Role × User)) (w : σ) :
      Step (c, calls, w) .clear (c.clear, calls, w)
  | forget (c : Cache) (calls : List (Role × User)) (w : σ) (role : Int64) :
      Step (c, calls, w) (.forget role) (c.forget role, calls, w)
  | reorganise (c : Cache) (calls : List (Role × User)) (w w' : σ) :
      Step (c, calls, w) .reorganise (c.clear, calls, w')
  | regrant (c : Cache) (calls : List (Role × User)) (w w' : σ) (role : Int64)
      (h : AgreeBut role (answer w) (answer w')) :
      Step (c, calls, w) (.regrant role) (c.forget role, calls, w')

/-- Some events, one after the other, from an empty cache on. -/
inductive Run (w₀ : σ) : List Event → State σ → Prop
  | start : Run w₀ [] (.empty, [], w₀)
  | step {es : List Event} {e : Event} {x y : State σ} (h : Run w₀ es x)
      (hstep : Step r answer x e y) : Run w₀ (es ++ [e]) y

/-- What is remembered is what the resolver answers.  Every role that the cache is concerned
with was a hit or a miss, and at every miss the resolver was asked. -/
structure Invariant (es : List Event) (x : State σ) : Prop where
  current : x.1.IsCurrent (answer x.2.2)
  counted : x.1.hits + x.1.misses = es.countP Event.isConcern
  asked : x.1.misses = x.2.1.countP fun (role, user) => concerns role user

/-- What can be said of a cache after some events. -/
structure IsTransparent (es : List Event) (x : State σ) : Prop where
  -- A role is answered as without the cache.
  answers : ∀ role user s, (r.recorded.cached role user s x).1 = answer x.2.2 role user
  -- The session is left alone.
  session : ∀ role user s, (r.recorded.cached role user s x).2.1 = s
  -- Each time that a role was asked for, its ids were remembered or not.
  counted : x.1.hits + x.1.misses = es.countP Event.isConcern
  -- When they were not, the resolver was asked.
  asked : x.1.misses = x.2.1.countP fun (role, user) => concerns role user
  -- Only what is answered now is remembered.
  current : ∀ k resolution, x.1.found.find? k = some resolution →
    ∀ role user, key? role user = some k → answer x.2.2 role user = .ok resolution
  -- An error adds nothing to what is remembered.
  failure : ∀ role user s e, answer x.2.2 role user = .error e →
    (r.recorded.cached role user s x).2.2.1.found = x.1.found
  -- What is forgotten with a role is remembered for no other one.
  forgotten : ∀ role k, (x.1.forget role).found.find? k
    = if k = .role role then none else x.1.found.find? k

variable {r answer} {w₀ : σ} {es : List Event} {x y : State σ} {e : Event}

theorem find?_clear (c : Cache) (k : CacheKey) : c.clear.found.find? k = none :=
  rfl

theorem find?_forget (c : Cache) (role : Int64) (k : CacheKey) :
    (c.forget role).found.find? k = if k = .role role then none else c.found.find? k := by
  show (c.found.restrict (· != .role role)).find? k = _
  rw [KeyMap.find?_restrict]
  by_cases hk : k = .role role
  · simp [hk]
  · simp [hk]

theorem invariant_start : Invariant answer [] (.empty, [], w₀) where
  current := isCurrent_empty
  counted := rfl
  asked := rfl

section Asking

variable (hr : r.AnswersIn answer)

include hr

theorem invariant_resolve (hkeyed : ∀ w, IsKeyed (answer w)) (h : Invariant answer es x)
    (role : Role) (user : User) (s : Session) :
    Invariant answer (es ++ [.resolve role user]) (r.recorded.cached role user s x).2.2 := by
  have hconcern : (key? role user).isSome = concerns role user := isSome_key? role user
  have hcounted : (es ++ [Event.resolve role user]).countP Event.isConcern
      = x.1.hits + x.1.misses + (concerns role user).toNat := by
    rw [List.countP_append, ← h.counted]
    cases hc : concerns role user <;> simp [Event.isConcern, hc]
  have hasked : (x.2.1 ++ [(role, user)]).countP (fun (role, user) => concerns role user)
      = x.1.misses + (concerns role user).toNat := by
    rw [List.countP_append, ← h.asked]
    cases hc : concerns role user <;> simp [hc]
  have hstore : answer (r role user s x.2.2).2.2 = answer x.2.2 := hr.store role user s x.2.2
  have hcurrent : x.1.IsCurrent (answer (r role user s x.2.2).2.2) := by
    rw [hstore]
    exact h.current
  obtain ⟨hk, hx⟩ | ⟨k, hk, ⟨resolution, -, hx⟩ | ⟨-, hx⟩⟩ :=
    hr.recorded.cached_cases role user s x
  · -- the role has no ids, so nothing is counted
    rw [hk] at hconcern
    rw [← hconcern] at hcounted hasked
    rw [hx]
    exact ⟨hcurrent, hcounted.symm, hasked.symm⟩
  · rw [hk] at hconcern
    rw [← hconcern] at hcounted
    rw [hx]
    refine ⟨h.current, ?_, h.asked⟩
    rw [hcounted]
    exact Nat.add_right_comm x.1.hits 1 x.1.misses
  · rw [hk] at hconcern
    rw [← hconcern] at hcounted hasked
    have hlearned : IsCurrent (answer (r role user s x.2.2).2.2)
        ((answer x.2.2 role user).toOption.elim x.1.miss (x.1.miss.store k)) := by
      rw [hstore]
      exact h.current.learn (hkeyed x.2.2) hk
    rw [hx]
    rcases ha : answer x.2.2 role user with e | resolution
    all_goals
      rw [ha] at hlearned
      exact ⟨hlearned, hcounted.symm, hasked.symm⟩

end Asking

/-- Every event keeps the invariant. -/
theorem Invariant.step (hr : r.AnswersIn answer) (hkeyed : ∀ w, IsKeyed (answer w))
    (h : Invariant answer es x) (hstep : Step r answer x e y) :
    Invariant answer (es ++ [e]) y := by
  have hother {e : Event} (he : e.isConcern = false) :
      (es ++ [e]).countP Event.isConcern = es.countP Event.isConcern := by
    simp [List.countP_append, he]
  cases hstep with
  | resolve _ role user s => exact invariant_resolve hr hkeyed h role user s
  | clear c calls w =>
    exact ⟨fun k _ hk => absurd hk (by simp [find?_clear]), h.counted.trans (hother rfl).symm,
      h.asked⟩
  | forget c calls w role =>
    refine ⟨fun k resolution hk => ?_, h.counted.trans (hother rfl).symm, h.asked⟩
    rw [find?_forget] at hk
    split at hk
    · cases hk
    · exact h.current k resolution hk
  | reorganise c calls w w' =>
    exact ⟨fun k _ hk => absurd hk (by simp [find?_clear]), h.counted.trans (hother rfl).symm,
      h.asked⟩
  | regrant c calls w w' role hagree =>
    refine ⟨fun k resolution hk r u hkey => ?_, h.counted.trans (hother rfl).symm, h.asked⟩
    rw [find?_forget] at hk
    split at hk
    · cases hk
    · next hne =>
      -- a role that is still remembered is another one
      have hother : ¬(r.scope = .custom ∧ r.id = role) := by
        rintro ⟨hscope, rfl⟩
        rw [key?_of_custom u hscope] at hkey
        exact hne (Option.some.inj hkey).symm
      rw [hagree r u hother]
      exact h.current k resolution hk r u hkey

theorem Run.invariant (hr : r.AnswersIn answer) (hkeyed : ∀ w, IsKeyed (answer w))
    (h : Run r answer w₀ es x) : Invariant answer es x := by
  induction h with
  | start => exact invariant_start
  | step _ hstep ih => exact ih.step hr hkeyed hstep

/-- A role is answered as without the cache, and an error adds nothing to it. -/
theorem cached_of_invariant (hr : r.AnswersIn answer) (h : Invariant answer es x) (role : Role)
    (user : User) (s : Session) :
    ∃ y : State σ, r.recorded.cached role user s x = (answer x.2.2 role user, s, y) ∧
      ∀ err, answer x.2.2 role user = .error err → y.1.found = x.1.found := by
  obtain ⟨-, hx⟩ | ⟨k, hk, ⟨resolution, hfind, hx⟩ | ⟨-, hx⟩⟩ :=
    hr.recorded.cached_cases role user s x
  · exact ⟨_, hx, fun _ _ => rfl⟩
  · rw [← h.current k resolution hfind role user hk] at hx
    exact ⟨_, hx, fun _ _ => rfl⟩
  · refine ⟨_, hx, fun err herr => ?_⟩
    rw [herr]
    rfl

/-- **After any events a role is answered as without the cache**, errors included, and the
resolver was asked only for what was not remembered. -/
theorem isTransparent_of_run (hr : r.AnswersIn answer) (hkeyed : ∀ w, IsKeyed (answer w))
    (h : Run r answer w₀ es x) : IsTransparent r answer es x := by
  have hinv := h.invariant hr hkeyed
  refine ⟨fun role user s => ?_, fun role user s => ?_, hinv.counted, hinv.asked, hinv.current,
    fun role user s err herr => ?_, find?_forget x.1⟩
  · obtain ⟨y, hy, -⟩ := cached_of_invariant hr hinv role user s
    rw [hy]
  · obtain ⟨y, hy, -⟩ := cached_of_invariant hr hinv role user s
    rw [hy]
  · obtain ⟨y, hy, hfailure⟩ := cached_of_invariant hr hinv role user s
    rw [hy]
    exact hfailure err herr

end Runs

end Cache

/-! ### A cache that nothing is forgotten from -/

namespace Resolver

variable {r : Resolver σ} {answer : σ → Role → User → Except ResolveError Resolution}

/-- The suspension that a role is asked for in leaves the session as it was. -/
theorem suspended_of_push {role : Role} {u : User} {s : Session} {w w' : σ}
    {a : Except ResolveError Resolution} (h : r role u s.push w = (a, s.push, w')) :
    r.suspended role u s w = (a, s, w') := by
  rw [suspended, h]
  rfl

/-- **A resolver answers alike with a cache around it**, which stays current. -/
theorem AnswersIn.cached_simulates (hr : r.AnswersIn answer)
    (hkeyed : ∀ w, Cache.IsKeyed (answer w)) :
    r.cached.Simulates r fun x y =>
      x.1 = y.1 ∧ answer x.2.2 = answer y.2 ∧ Cache.IsCurrent (answer y.2) x.2.1 where
  bindings := by
    rintro x y ⟨hsession, -⟩
    rw [hsession]
  answers := by
    rintro ⟨s, c, w⟩ ⟨_, w'⟩ ⟨rfl, hw, hc⟩ role u
    have hw : answer w = answer w' := hw
    have hstore (w : σ) : answer (r role u s.push w).2.2 = answer w := hr.store role u s.push w
    have hplain : r.suspended role u s w' = (answer w' role u, s, (r role u s.push w').2.2) :=
      suspended_of_push
        (Prod.ext (hr.answers role u s.push w') (Prod.ext (hr.session role u s.push w') rfl))
    have hafter : answer (r role u s.push w).2.2 = answer (r role u s.push w').2.2 := by
      rw [hstore, hstore, hw]
    have hcurrent {c : Cache} (h : c.IsCurrent (answer w')) :
        c.IsCurrent (answer (r role u s.push w').2.2) := by
      rwa [hstore]
    rw [hplain]
    obtain ⟨-, hx⟩ | ⟨k, hk, ⟨resolution, hfind, hx⟩ | ⟨-, hx⟩⟩ :=
      hr.cached_cases role u s.push (c, w)
    · rw [suspended_of_push hx, hw]
      exact ⟨rfl, rfl, hafter, hcurrent hc⟩
    · -- what is remembered is what would be answered
      rw [suspended_of_push hx, hc k resolution hfind role u hk]
      exact ⟨rfl, rfl, hw.trans (hstore w').symm, hcurrent hc⟩
    · rw [suspended_of_push hx, hw]
      exact ⟨rfl, rfl, hafter, hcurrent (hc.learn (hkeyed w') hk)⟩

theorem answersIn_ofFunction (f : Role → User → Except ResolveError Resolution) :
    (ofFunction f : Resolver σ).AnswersIn fun _ => f :=
  ⟨fun _ _ _ _ => rfl, fun _ _ _ _ => rfl, fun _ _ _ _ => rfl⟩

end Resolver

/-! ### A directory that changes -/

namespace Directory

/-- The resolver of a directory that may change. -/
def resolver (sentinel : Value) : Resolver Directory :=
  fun role user s d => (d.resolve sentinel role user, s, d)

theorem answersIn_resolver (sentinel : Value) :
    (resolver sentinel).AnswersIn fun d => d.resolve sentinel :=
  ⟨fun _ _ _ _ => rfl, fun _ _ _ _ => rfl, fun _ _ _ _ => rfl⟩

/-- A directory knows the ids of a role by its key. -/
theorem isKeyed_resolve (d : Directory) (sentinel : Value) :
    Cache.IsKeyed (d.resolve sentinel) := by
  intro role user role' user' k hk hk'
  cases k with
  | role id =>
    obtain ⟨hs, rfl⟩ := Cache.scope_of_key? hk
    obtain ⟨hs', hid⟩ := Cache.scope_of_key? hk'
    -- only the error tells the roles apart
    simp only [resolve, hs, hs', hid]
    cases d.granted? role.id with
    | none => rfl
    | some ids => rfl
  | tree scope department =>
    obtain ⟨rfl, hscope, hd⟩ := Cache.of_key?_tree hk
    obtain ⟨hs', -, hd'⟩ := Cache.of_key?_tree hk'
    rcases hscope with hs | hs
    · simp only [resolve, hs', hs, hd, hd']
    · simp only [resolve, hs', hs, hd, hd']

end Directory

namespace Cache

/-- A role is granted other departments between two times that it is asked for. -/
theorem isTransparent_of_run_regrant :
    let common : Role := ⟨2, "common", .custom⟩
    let lead : Role := ⟨4, "lead", .deptAndChild⟩
    let u : User := ⟨.int 1, some 101, [common, lead], .empty, .empty⟩
    let directory (ids : List Int64) : Directory :=
      ⟨[⟨100, none, ""⟩, ⟨101, some 100, ""⟩, ⟨103, some 101, ""⟩], [⟨2, "common", ids⟩]⟩
    let r := Directory.resolver (.int (-1))
    let answer := fun d : Directory => d.resolve (.int (-1))
    let es : List Event :=
      [.resolve common u, .resolve lead u, .regrant 2, .resolve common u, .resolve lead u]
    r.AnswersIn answer ∧ (∀ d, IsKeyed (answer d)) ∧
      ∃ x, Run r answer (directory [105, 200]) es x ∧ x.1.hits = 1 ∧ x.1.misses = 3 ∧
        IsTransparent r answer es x := by
  intro common lead u directory r answer es
  have hr : r.AnswersIn answer := Directory.answersIn_resolver _
  have hkeyed (d : Directory) : IsKeyed (answer d) := d.isKeyed_resolve _
  have hagree : AgreeBut 2 (answer (directory [105, 200])) (answer (directory [200])) := by
    intro role user hother
    show Directory.resolve _ _ role user = Directory.resolve _ _ role user
    unfold Directory.resolve
    cases hs : role.scope with
    | custom =>
      have hid : ¬(2 : Int64) = role.id := fun hid => hother ⟨hs, hid.symm⟩
      simp [directory, Directory.granted?, hid]
    | _ => rfl
  have hrun : Run r answer (directory [105, 200]) es _ :=
    ((((Run.start.step (.resolve _ common u .start)).step (.resolve _ lead u .start)).step
      (.regrant _ _ _ _ 2 hagree)).step (.resolve _ common u .start)).step
      (.resolve _ lead u .start)
  exact ⟨hr, hkeyed, _, hrun, by decide +kernel, by decide +kernel,
    isTransparent_of_run hr hkeyed hrun⟩

end Cache

end RowScope
