/-
Laws of the connectives of three-valued truth.

* `Truth.all_eq_holds_iff`, `Truth.all_eq_fails_iff` — when a conjunction is definite;
* `Truth.any_eq_holds_iff`, `Truth.any_eq_fails_iff` — when a disjunction is definite;
* `Value.among_elements` — membership in a set, by the members one by one;
* `Join.truth` — the outcomes of several conditions under a join;
* `Join.truth_congr` — a join depends on which outcomes there are, and not on their
  order and number.
-/
import RowScope.Filter.Basic
import RowScope.Filter.Meaning

namespace RowScope

namespace Truth

theorem and_eq_holds_iff {a b : Truth} : a.and b = holds ↔ a = holds ∧ b = holds := by
  cases a <;> cases b <;> decide

theorem and_eq_fails_iff {a b : Truth} : a.and b = fails ↔ a = fails ∨ b = fails := by
  cases a <;> cases b <;> decide

theorem or_eq_holds_iff {a b : Truth} : a.or b = holds ↔ a = holds ∨ b = holds := by
  cases a <;> cases b <;> decide

theorem or_eq_fails_iff {a b : Truth} : a.or b = fails ↔ a = fails ∧ b = fails := by
  cases a <;> cases b <;> decide

@[simp] theorem and_holds (a : Truth) : a.and holds = a := by cases a <;> rfl

@[simp] theorem or_fails (a : Truth) : a.or fails = a := by cases a <;> rfl

theorem and_assoc (a b c : Truth) : (a.and b).and c = a.and (b.and c) := by
  cases a <;> cases b <;> cases c <;> rfl

theorem or_assoc (a b c : Truth) : (a.or b).or c = a.or (b.or c) := by
  cases a <;> cases b <;> cases c <;> rfl

@[simp] theorem holds_and (a : Truth) : holds.and a = a := by cases a <;> rfl

@[simp] theorem fails_or (a : Truth) : fails.or a = a := by cases a <;> rfl

/-- Two outcomes that are definite together are the same. -/
theorem eq_of_definite_iff {a b : Truth} (hholds : a = holds ↔ b = holds)
    (hfails : a = fails ↔ b = fails) : a = b := by
  cases a <;> cases b <;> simp_all

theorem eq_unknown_of_ne {t : Truth} (hholds : t ≠ holds) (hfails : t ≠ fails) :
    t = unknown := by
  cases t with
  | holds => exact absurd rfl hholds
  | fails => exact absurd rfl hfails
  | unknown => rfl

theorem all_eq_holds_iff {ts : List Truth} : all ts = holds ↔ ∀ t ∈ ts, t = holds := by
  induction ts with
  | nil => simp
  | cons t ts ih => rw [all_cons, and_eq_holds_iff, ih, List.forall_mem_cons]

theorem all_eq_fails_iff {ts : List Truth} : all ts = fails ↔ fails ∈ ts := by
  induction ts with
  | nil => simp
  | cons t ts ih => rw [all_cons, and_eq_fails_iff, ih, List.mem_cons, eq_comm]

theorem any_eq_holds_iff {ts : List Truth} : any ts = holds ↔ holds ∈ ts := by
  induction ts with
  | nil => simp
  | cons t ts ih => rw [any_cons, or_eq_holds_iff, ih, List.mem_cons, eq_comm]

theorem any_eq_fails_iff {ts : List Truth} : any ts = fails ↔ ∀ t ∈ ts, t = fails := by
  induction ts with
  | nil => simp
  | cons t ts ih => rw [any_cons, or_eq_fails_iff, ih, List.forall_mem_cons]

theorem all_append (ts us : List Truth) : all (ts ++ us) = (all ts).and (all us) := by
  induction ts with
  | nil => simp
  | cons t ts ih => rw [List.cons_append, all_cons, all_cons, ih, and_assoc]

theorem any_append (ts us : List Truth) : any (ts ++ us) = (any ts).or (any us) := by
  induction ts with
  | nil => simp
  | cons t ts ih => rw [List.cons_append, any_cons, any_cons, ih, or_assoc]

theorem any_flatMap {α : Type} (f : α → List Truth) (as : List α) :
    any (as.flatMap f) = any (as.map fun a => any (f a)) := by
  induction as with
  | nil => rfl
  | cons a as ih => rw [List.flatMap_cons, any_append, List.map_cons, any_cons, ih]

end Truth

namespace Value

theorem equals_null (v : Value) : v.equals null = .unknown :=
  if_pos (Bool.or_true _)

/-- A null as a member of a set leaves open whether it is the value. -/
theorem any_equals_null (v : Value) :
    Truth.any (null.elements.map v.equals) = .unknown := by
  show (v.equals null).or .fails = .unknown
  rw [equals_null, Truth.or_fails]

/-- A value is in a set if it is among the elements of some member. -/
theorem among_elements {v : Value} (h : v.isNull = false) (ws : List Value) :
    v.among (ws.flatMap elements) = .any (ws.map fun w => .any (w.elements.map v.equals)) := by
  rw [among, h, List.map_flatMap, Truth.any_flatMap]
  rfl

end Value

/-- The outcomes of several conditions under a join. -/
def Join.truth : Join → List Truth → Truth
  | .and, ts => .all ts
  | .or, ts => .any ts

namespace Join

theorem truth_singleton (j : Join) (t : Truth) : j.truth [t] = t := by
  cases j
  · exact Truth.and_holds t
  · exact Truth.or_fails t

/-- A join depends on which outcomes there are, and not on their order and number. -/
theorem truth_congr (j : Join) {ts us : List Truth} (h : ∀ t, t ∈ ts ↔ t ∈ us) :
    j.truth ts = j.truth us := by
  cases j with
  | and =>
    show Truth.all ts = Truth.all us
    refine Truth.eq_of_definite_iff ?_ ?_
    · rw [Truth.all_eq_holds_iff, Truth.all_eq_holds_iff]
      exact forall_congr' fun t => by rw [h t]
    · rw [Truth.all_eq_fails_iff, Truth.all_eq_fails_iff, h]
  | or =>
    show Truth.any ts = Truth.any us
    refine Truth.eq_of_definite_iff ?_ ?_
    · rw [Truth.any_eq_holds_iff, Truth.any_eq_holds_iff, h]
    · rw [Truth.any_eq_fails_iff, Truth.any_eq_fails_iff]
      exact forall_congr' fun t => by rw [h t]

end Join

namespace Filter

theorem truth_joined (j : Join) (fs : List Filter) (row : Row) :
    (joined j fs).truth row = j.truth (fs.map (truth row)) := by
  cases j with
  | and => rw [joined, truth, truths_eq_map, Join.truth]
  | or => rw [joined, truth, truths_eq_map, Join.truth]

/-- A list of conditions as one condition has the outcome of their join. -/
theorem truth_of_join? {j : Join} {fs : List Filter} {f : Filter} (h : join? j fs = some f)
    (row : Row) : f.truth row = j.truth (fs.map (truth row)) := by
  match fs, h with
  | [g], h =>
    obtain rfl : g = f := Option.some.inj h
    exact (Join.truth_singleton j _).symm
  | g :: g' :: fs, h =>
    obtain rfl := Option.some.inj h
    exact truth_joined j _ row

theorem join?_eq_none_iff {j : Join} {fs : List Filter} : join? j fs = none ↔ fs = [] := by
  match fs with
  | [] => simp [join?]
  | [f] => simp [join?]
  | f :: g :: fs => simp [join?]

theorem truth_conjoin (existing : Option Filter) (f : Filter) (row : Row) :
    (conjoin existing f).truth row
      = (existing.elim .holds (truth row)).and (f.truth row) := by
  cases existing with
  | none => exact (Truth.holds_and _).symm
  | some e =>
    show (truth row e).and ((truth row f).and .holds) = _
    rw [Truth.and_holds]
    rfl

end Filter

end RowScope
