/-
Suspensions inside of suspensions.

A block of actions runs with the rules suspended until it is done, and it may hold further blocks
and suspensions of its own.  Whatever ends within a block, the block itself stays open, so no
statement in it meets a rule.

* `Session.Act` — what an application does with a session, blocks within blocks included;
* `Enforcer.perform` — an action done, and what is seen of it;
* `Session.IsBalanced` — a body that ends the suspensions that it opens, and no others;
* `Enforcer.KeepsOut` — no rule is asked for in an action, and no suspension is lost in it;
* `Enforcer.keepsOut_of_isBalanced` — the rules keep out of every block, at any level.

Design notes: an end without a beginning is ignored, so a body that ends more than it opened
would end the suspension of the block around it.  A balanced body never does so at any point:
how far it is open is counted from its start, with the blocks in it counting for nothing.
-/
import RowScope.Proofs.Access.Enforcement

namespace RowScope

variable {σ : Type}

namespace Session

/-- What an application does with a session. -/
inductive Act where
  | enforce (query : String) (existing : Option Filter) (statement : Statement)
  | setVariable (name : String) (b : Binding)
  -- A rule is forced on the next statement.
  | force (rule : Rule)
  -- The rules are suspended once more.
  | push
  -- One suspension ends.
  | pop
  -- Some actions with the rules suspended until they are done.
  | block (body : List Act)

/-- What is seen of an action. -/
inductive Sight where
  -- What became of a statement.
  | verdict (v : Verdict)
  -- The suspensions that were open when a block began, and when it was done.
  | block (before after : Nat)

def Sight.verdict? : Sight → Option Verdict
  | verdict v => some v
  | block .. => none

/-- How many suspensions an action leaves open; what ends one counts against them. -/
def Act.opened : Act → Int
  | push => 1
  | pop => -1
  | _ => 0

/-- How many suspensions a body leaves open. -/
def opened (body : List Act) : Int :=
  (body.map Act.opened).sum

/-- The body never ends more suspensions than it opened, and in the end it has ended as many,
and so do the bodies of all blocks in it. -/
inductive IsBalanced : List Act → Prop
  | intro {body : List Act} (never : ∀ start, start <+: body → 0 ≤ opened start)
      (ends : opened body = 0) (blocks : ∀ inner, .block inner ∈ body → IsBalanced inner) :
      IsBalanced body

mutual

/-- The conditions of the statements of an action, at all levels and in order. -/
def Act.conditions : Act → List (Option Filter)
  | .enforce _ existing _ => [existing]
  | .block body => conditionsAll body
  | _ => []

/-- The conditions of the statements of a body. -/
def conditionsAll : List Act → List (Option Filter)
  | [] => []
  | a :: as => a.conditions ++ conditionsAll as

end

@[simp] theorem opened_nil : opened [] = 0 := rfl

@[simp] theorem opened_cons (a : Act) (as : List Act) :
    opened (a :: as) = a.opened + opened as :=
  List.sum_cons

end Session

namespace Enforcer

open Session (Act Sight IsBalanced)

mutual

/-- An action done: what is seen of it, the store, and the session that it leaves. -/
def perform (e : Enforcer σ) : Act → Session → σ → (List Sight × σ) × Session
  | .enforce query existing statement, s, w =>
    let (v, s, w) := e.enforce query existing statement s w
    (([.verdict v], w), s)
  | .setVariable name b, s, w => (([], w), s.setVariable name b)
  | .force rule, s, w => (([], w), s.force rule)
  | .push, s, w => (([], w), s.push)
  | .pop, s, w => (([], w), s.pop)
  | .block body, s, w =>
    let ((seen, w), s') := s.suspended fun s => performAll e body s w
    ((seen ++ [.block s.depth s'.depth], w), s')

/-- The actions of a body, one after the other. -/
def performAll (e : Enforcer σ) : List Act → Session → σ → (List Sight × σ) × Session
  | [], s, w => (([], w), s)
  | a :: as, s, w =>
    let ((seen, w), s) := perform e a s w
    let ((more, w), s) := performAll e as s w
    ((seen ++ more, w), s)

end

/-- The rules took no part in what was done: every statement passed with its condition, nobody was
asked anything, every block that was done left as many suspensions as it found, and `change`
more are open than before. -/
structure KeptOut (conditions : List (Option Filter)) (change : Int) (s : Session) (w : σ)
    (done : (List Sight × σ) × Session) : Prop where
  verdicts : done.1.1.filterMap Sight.verdict?
    = conditions.map fun existing => .pass existing .suspended
  blocks : ∀ before after, .block before after ∈ done.1.1 → after = before
  store : done.1.2 = w
  depth : (done.2.depth : Int) = s.depth + change

/-- The rules take no part in a block, wherever it is done. -/
def KeepsOut (e : Enforcer σ) (body : List Act) : Prop :=
  ∀ s w, KeptOut (Session.conditionsAll body) 0 s w (e.perform (.block body) s w)

variable {e : Enforcer σ} {a : Act} {body : List Act} {s : Session} {w : σ}

theorem enforce_of_suspended (h : 0 < s.depth) (query : String) (existing : Option Filter)
    (statement : Statement) :
    e.enforce query existing statement s w = (.pass existing .suspended, s.takeForced.2, w) := by
  rw [enforce_eq, if_pos (by simpa [Session.isSuspended] using h)]

/-- What is done after one another. -/
theorem KeptOut.append {conditions conditions' : List (Option Filter)} {change change' : Int}
    {seen seen' : List Sight} {s' s'' : Session} {w' w'' : σ}
    (h : KeptOut conditions change s w ((seen, w'), s'))
    (h' : KeptOut conditions' change' s' w' ((seen', w''), s'')) :
    KeptOut (conditions ++ conditions') (change + change') s w ((seen ++ seen', w''), s'') where
  verdicts := by
    rw [List.filterMap_append, h.verdicts, h'.verdicts, List.map_append]
  blocks := fun before after hblock =>
    (List.mem_append.1 hblock).elim (h.blocks before after) (h'.blocks before after)
  store := h'.store.trans h.store
  depth := by
    have hdepth : (s'.depth : Int) = s.depth + change := h.depth
    rw [h'.depth, hdepth, Int.add_assoc]

/-- One action under suspended rules. -/
theorem keptOut_perform (hs : 0 < s.depth) (hblock : ∀ inner, a = .block inner → e.KeepsOut inner) :
    KeptOut a.conditions a.opened s w (e.perform a s w) := by
  cases a with
  | enforce query existing statement =>
    rw [perform, enforce_of_suspended hs]
    exact ⟨rfl, by simp, rfl, (Int.add_zero _).symm⟩
  | setVariable name b => exact ⟨rfl, by simp [perform], rfl, (Int.add_zero _).symm⟩
  | force rule => exact ⟨rfl, by simp [perform], rfl, (Int.add_zero _).symm⟩
  | push => exact ⟨rfl, by simp [perform], rfl, rfl⟩
  | pop =>
    refine ⟨rfl, by simp [perform], rfl, ?_⟩
    -- there is a suspension that ends
    show ((s.depth - 1 : Nat) : Int) = s.depth + -1
    omega
  | block inner => exact hblock inner rfl s w

/-- The actions of a body that leaves a suspension open at each point. -/
theorem keptOut_performAll (hblocks : ∀ inner, .block inner ∈ body → e.KeepsOut inner)
    (hopen : ∀ start, start <+: body → 0 < s.depth + Session.opened start) :
    KeptOut (Session.conditionsAll body) (Session.opened body) s w (e.performAll body s w) := by
  induction body generalizing s w with
  | nil => exact ⟨rfl, by simp [performAll], rfl, (Int.add_zero _).symm⟩
  | cons a as ih =>
    have hs : 0 < s.depth := by simpa using hopen [] List.nil_prefix
    have hfirst : KeptOut a.conditions a.opened s w (e.perform a s w) :=
      keptOut_perform hs fun inner ha => hblocks inner (ha ▸ List.mem_cons_self)
    rcases hperform : e.perform a s w with ⟨⟨seen, w'⟩, s'⟩
    rw [hperform] at hfirst
    -- a suspension is left open after the first action, and at each point after it
    have hopen' : ∀ start, start <+: as → 0 < s'.depth + Session.opened start := by
      intro start hstart
      have hdepth : (s'.depth : Int) = s.depth + a.opened := hfirst.depth
      have := hopen (a :: start) (List.cons_prefix_cons.2 ⟨rfl, hstart⟩)
      rw [Session.opened_cons] at this
      omega
    have hrest := ih (w := w') (fun inner h => hblocks inner (List.mem_cons_of_mem _ h)) hopen'
    rcases hperformAll : e.performAll as s' w' with ⟨⟨seen', w''⟩, s''⟩
    rw [hperformAll] at hrest
    simp only [performAll, hperform, hperformAll]
    exact hfirst.append hrest

/-- A block leaves the suspensions as it found them, if its body does. -/
theorem keepsOut_of_performAll
    (h : ∀ (s : Session) (w : σ), 0 < s.depth →
      KeptOut (Session.conditionsAll body) 0 s w (e.performAll body s w)) : e.KeepsOut body := by
  intro s w
  have hbody := h s.push w (Nat.succ_pos _)
  rcases hperformAll : e.performAll body s.push w with ⟨⟨seen, w'⟩, s'⟩
  rw [hperformAll] at hbody
  have hdepth : s'.pop.depth = s.depth := by
    have : (s'.depth : Int) = (s.depth + 1 : Nat) + 0 := hbody.depth
    show s'.depth - 1 = s.depth
    omega
  simp only [perform, Session.suspended, hperformAll]
  refine ⟨?_, ?_, hbody.store, by simp [hdepth]⟩
  · rw [List.filterMap_append, hbody.verdicts]
    exact List.append_nil _
  · intro before after hseen
    rcases List.mem_append.1 hseen with hseen | hlast
    · exact hbody.blocks before after hseen
    · obtain ⟨rfl, rfl⟩ := Sight.block.inj (List.mem_singleton.1 hlast)
      exact hdepth

/-- The induction is on the blocks: each of them leaves the body around it as open as it was. -/
theorem keepsOut_of_isBalanced (h : IsBalanced body) : e.KeepsOut body := by
  induction h with
  | intro never ends _ ih =>
    refine keepsOut_of_performAll fun s w hs => ?_
    rw [← ends]
    refine keptOut_performAll ih fun start hstart => ?_
    have := never start hstart
    omega

/-- **The rules keep out of every block.**  At each level, and also after a block within it is
done, the statements of the block pass with their conditions, and all blocks in it, like the
block itself, end with as many suspensions open as there were when they began. -/
theorem keptOut_block (e : Enforcer σ) (h : IsBalanced body) (s : Session) (w : σ) :
    KeptOut (Session.conditionsAll body) 0 s w (e.perform (.block body) s w) ∧
      (e.perform (.block body) s w).2.depth = s.depth := by
  have hblock := keepsOut_of_isBalanced (e := e) h s w
  exact ⟨hblock, by simpa using hblock.depth⟩

/-- A block in a block, between a suspension and its end, where every statement outside of the
blocks is denied. -/
theorem keptOut_block_twice :
    let rule : Rule := ⟨[⟨[("deptName", "dept_id")], none, by decide⟩], none, by decide⟩
    let e : Enforcer Unit :=
      ⟨⟨KeyMap.empty.insert "orders" rule⟩, .standard,
        .ofFunction fun role _ => .error (.unknownRole role.key), none⟩
    let s := Session.ofUser ⟨.int 7, none, [⟨1, "clerk", .dept⟩], .empty, .empty⟩
    let query : Act := .enforce "orders.list" (some .always) .select
    let inner : List Act := [.force rule, query, .push, query, .pop, query]
    let body : List Act := [.push, query, .block inner, query, .pop, query]
    IsBalanced body ∧ (e.enforce "orders.list" (some .always) .select s ()).1.outcome = .denied ∧
      (Session.conditionsAll body).length = 6 ∧
      KeptOut (Session.conditionsAll body) 0 s () (e.perform (.block body) s ()) ∧
      (e.perform (.block body) s ()).2.depth = 0 := by
  intro rule e s query inner body
  have hinner : IsBalanced inner := by
    refine .intro (fun start h => ?_) rfl (by simp [inner, query])
    have hall : ∀ start ∈ inner.inits, 0 ≤ Session.opened start := by decide
    exact hall start (List.mem_inits _ _ |>.2 h)
  have hbody : IsBalanced body := by
    refine .intro (fun start h => ?_) rfl (by simpa [body, query] using hinner)
    have hall : ∀ start ∈ body.inits, 0 ≤ Session.opened start := by decide
    exact hall start (List.mem_inits _ _ |>.2 h)
  exact ⟨hbody, by decide +kernel, rfl, keptOut_block e hbody s ()⟩

end Enforcer

end RowScope
