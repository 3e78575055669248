/-
Sequences of results and lists without duplicates.

* `Except.map_eq_ok_iff`, `Except.mapError_eq_ok_iff`, `Except.bind_eq_ok_iff` — when a
  result that was mapped or continued is there;
* `mapM_eq_ok_iff`, `errorOf?_mapM` — a list of results is there when each of them is, and
  else ends at the first error;
* `mem_of_mem_eraseDupsBy`, `exists_mem_eraseDupsBy` — a list without duplicates has
  only elements of the list, and one in the place of each that was left out;
* `mem_eraseDupsBy_append` — an element is left out only for one before it.
-/
import Mathlib.Data.List.Forall2

namespace RowScope

section Results

variable {ε ε' α β : Type}

theorem Except.map_eq_ok_iff {f : α → β} {x : Except ε α} {b : β} :
    x.map f = .ok b ↔ ∃ a, x = .ok a ∧ f a = b := by
  cases x with
  | error e => simp [Except.map]
  | ok a => simp [Except.map]

theorem Except.mapError_eq_ok_iff {f : ε → ε'} {x : Except ε α} {a : α} :
    x.mapError f = .ok a ↔ x = .ok a := by
  cases x with
  | error e => simp [Except.mapError]
  | ok a => simp [Except.mapError]

theorem Except.bind_eq_ok_iff {f : α → Except ε β} {x : Except ε α} {b : β} :
    (x >>= f) = .ok b ↔ ∃ a, x = .ok a ∧ f a = .ok b := by
  cases x with
  | error e => simp [bind, Except.bind]
  | ok a => simp [bind, Except.bind]

theorem Except.toOption_eq_some_iff {x : Except ε α} {a : α} :
    x.toOption = some a ↔ x = .ok a := by
  cases x with
  | error e => simp [Except.toOption]
  | ok b => simp [Except.toOption]

theorem mapM_eq_ok_iff {f : α → Except ε β} {xs : List α} {ys : List β} :
    xs.mapM f = .ok ys ↔ List.Forall₂ (fun x y => f x = .ok y) xs ys := by
  induction xs generalizing ys with
  | nil =>
    rw [List.mapM_nil, List.forall₂_nil_left_iff]
    show Except.ok [] = Except.ok ys ↔ _
    rw [Except.ok.injEq, eq_comm]
  | cons x xs ih =>
    rw [List.mapM_cons, Except.bind_eq_ok_iff, List.forall₂_cons_left_iff]
    constructor
    · rintro ⟨y, hy, h⟩
      obtain ⟨zs, hzs, h⟩ := Except.bind_eq_ok_iff.1 h
      exact ⟨y, zs, hy, ih.1 hzs, (Except.ok.inj h).symm⟩
    · rintro ⟨y, zs, hy, hzs, rfl⟩
      exact ⟨y, hy, Except.bind_eq_ok_iff.2 ⟨zs, ih.2 hzs, rfl⟩⟩

/-- What was written element by element and is read back so. -/
theorem mapM_map_eq_ok {γ : Type} {write : α → β} {read : β → Except ε γ} {f : α → γ}
    {xs : List α} (h : ∀ x ∈ xs, read (write x) = .ok (f x)) :
    (xs.map write).mapM read = .ok (xs.map f) := by
  rw [mapM_eq_ok_iff, List.forall₂_map_left_iff, List.forall₂_map_right_iff, List.forall₂_same]
  exact h

theorem exists_of_forall₂_of_mem {r : α → β → Prop} {xs : List α} {ys : List β} {y : β}
    (h : List.Forall₂ r xs ys) (hy : y ∈ ys) : ∃ x ∈ xs, r x y := by
  induction h with
  | nil => exact absurd hy List.not_mem_nil
  | cons hxy _ ih =>
    rcases List.mem_cons.1 hy with rfl | hy
    · exact ⟨_, List.mem_cons_self, hxy⟩
    · obtain ⟨x, hx, hr⟩ := ih hy
      exact ⟨x, List.mem_cons_of_mem _ hx, hr⟩

theorem mapM_congr {f g : α → Except ε β} {xs : List α} (h : ∀ x ∈ xs, f x = g x) :
    xs.mapM f = xs.mapM g := by
  induction xs with
  | nil => rfl
  | cons x xs ih =>
    rw [List.forall_mem_cons] at h
    rw [List.mapM_cons, List.mapM_cons, h.1, ih h.2]

/-- The error, if it is one. -/
def errorOf? : Except ε α → Option ε
  | .error e => some e
  | .ok _ => none

theorem errorOf?_eq_some_iff {x : Except ε α} {e : ε} : errorOf? x = some e ↔ x = .error e := by
  cases x with
  | error e' => simp [errorOf?]
  | ok a => simp [errorOf?]

theorem errorOf?_map (f : α → β) (x : Except ε α) : errorOf? (x.map f) = errorOf? x := by
  cases x with
  | error e => rfl
  | ok a => rfl

/-- A result that there is if nothing fails, mapped. -/
theorem map_elim_error (f : α → β) (a : α) (failure : Option ε) :
    (failure.elim (.ok a) .error : Except ε α).map f = failure.elim (.ok (f a)) .error := by
  cases failure with
  | none => rfl
  | some e => rfl

/-- A list of results ends at the first error. -/
theorem errorOf?_mapM (f : α → Except ε β) (xs : List α) :
    errorOf? (xs.mapM f) = xs.findSome? fun x => errorOf? (f x) := by
  induction xs with
  | nil => rfl
  | cons x xs ih =>
    rw [List.mapM_cons, List.findSome?_cons]
    cases hx : f x with
    | error e => rfl
    | ok y =>
      show errorOf? (xs.mapM f >>= fun ys => pure (y :: ys)) = xs.findSome? _
      rw [← ih]
      cases xs.mapM f with
      | error e => rfl
      | ok ys => rfl

end Results

section Duplicates

variable {α : Type} {r : α → α → Bool}

/-- Induction that follows `eraseDupsBy`: what `x` stands for is taken out of the rest. -/
theorem eraseDupsBy_induction {motive : List α → Prop} (nil : motive [])
    (cons : ∀ x xs, motive (xs.filter fun y => r y x = false) → motive (x :: xs)) :
    ∀ xs, motive xs
  | [] => nil
  | x :: xs => cons x xs (eraseDupsBy_induction nil cons (xs.filter fun y => r y x = false))
termination_by xs => xs.length
decreasing_by exact Nat.lt_succ_of_le (List.length_filter_le _ xs)

theorem mem_of_mem_eraseDupsBy {x : α} {xs : List α} (h : x ∈ xs.eraseDupsBy r) : x ∈ xs := by
  induction xs using eraseDupsBy_induction (r := r) with
  | nil => simp at h
  | cons y ys ih =>
    rw [List.eraseDupsBy_cons, List.mem_cons] at h
    rcases h with rfl | h
    · exact List.mem_cons_self
    · exact List.mem_cons_of_mem _ (List.mem_filter.1 (ih h)).1

theorem exists_mem_eraseDupsBy {x : α} {xs : List α} (h : x ∈ xs) :
    ∃ y ∈ xs.eraseDupsBy r, x = y ∨ r x y = true := by
  induction xs using eraseDupsBy_induction (r := r) with
  | nil => simp at h
  | cons y ys ih =>
    rw [List.eraseDupsBy_cons]
    rcases List.mem_cons.1 h with rfl | hx
    · exact ⟨x, List.mem_cons_self, .inl rfl⟩
    · by_cases hr : r x y = true
      · exact ⟨y, List.mem_cons_self, .inr hr⟩
      · obtain ⟨z, hz, hxz⟩ := ih (List.mem_filter.2 ⟨hx, by simpa using hr⟩)
        exact ⟨z, List.mem_cons_of_mem _ hz, hxz⟩

theorem eraseDupsBy_eq_nil_iff {xs : List α} : xs.eraseDupsBy r = [] ↔ xs = [] := by
  rcases xs with _ | ⟨x, xs⟩
  · exact ⟨fun _ => rfl, fun _ => rfl⟩
  · rw [List.eraseDupsBy_cons]
    simp

/-- An element stays if all before it that it counts as equal to are itself. -/
theorem mem_eraseDupsBy_append {x : α} {xs ys : List α} (h : ∀ y ∈ xs, r x y = true → x = y) :
    x ∈ (xs ++ x :: ys).eraseDupsBy r := by
  generalize hzs : xs ++ x :: ys = zs
  induction zs using eraseDupsBy_induction (r := r) generalizing xs ys with
  | nil => exact absurd hzs (by simp)
  | cons z zs ih =>
    rw [List.eraseDupsBy_cons]
    cases xs with
    | nil =>
      obtain ⟨rfl, -⟩ := List.cons.inj hzs
      exact List.mem_cons_self
    | cons y xs =>
      obtain ⟨rfl, rfl⟩ := List.cons.inj hzs
      rw [List.forall_mem_cons] at h
      by_cases hy : r x y = true
      · rw [← h.1 hy]
        exact List.mem_cons_self
      · have hfilter : (xs.filter fun z => r z y = false) ++ x :: ys.filter (fun z => r z y = false)
            = (xs ++ x :: ys).filter fun z => r z y = false := by
          rw [List.filter_append, List.filter_cons_of_pos (by simpa using hy)]
        refine List.mem_cons_of_mem _ (ih (fun z hz => ?_) hfilter)
        exact h.2 z (List.mem_filter.1 hz).1

end Duplicates

end RowScope
