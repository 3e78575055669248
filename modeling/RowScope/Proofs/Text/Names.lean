/-
Names and their dots.

* `Name.parts_append_dot` — a dot parts the text before it from the text after it;
* `Name.exists_of_isWord` — the first part of a text is what the text starts with;
* `Name.owner?_append` — what is before the last dot of a name is its owner;
* `Name.GoesOn` — a name that stands before a text is longer than it was taken to be;
* `Name.isColumn_tail`, `Name.not_goesOn_tail` — what is taken off a text is a name, and as much
  of it as there is.
-/
import Mathlib.Data.List.Basic
import RowScope.Text.Name

namespace RowScope.Name

theorem isPart_of_isStart {c : Char} (h : isStart c = true) : isPart c = true := by
  rw [isStart, Bool.or_eq_true] at h
  rw [isPart, Char.isAlphanum, Bool.or_eq_true, Bool.or_eq_true]
  exact h.imp_left .inl

theorem ne_dot_of_isPart {c : Char} (h : isPart c = true) : c ≠ '.' := by
  rintro rfl
  exact absurd h (by decide)

theorem exists_parts (cs : List Char) : ∃ p ps, parts cs = p :: ps := by
  cases h : parts cs with
  | nil =>
    exfalso
    cases cs with
    | nil => simp [parts] at h
    | cons c cs =>
      rw [parts] at h
      split at h
      · exact absurd h (by simp)
      · split at h
        · exact absurd h (by simp)
        · exact absurd h (by simp)
  | cons p ps => exact ⟨p, ps, rfl⟩

theorem parts_dot (cs : List Char) : parts ('.' :: cs) = [] :: parts cs := by
  obtain ⟨p, ps, h⟩ := exists_parts cs
  rw [parts, h]
  rfl

theorem parts_cons {c : Char} (hc : c ≠ '.') {cs p : List Char} {ps : List (List Char)}
    (h : parts cs = p :: ps) : parts (c :: cs) = (c :: p) :: ps := by
  rw [parts, h]
  exact if_neg hc

/-- A word starts what comes before the first dot. -/
theorem exists_of_isWord {cs p : List Char} {ps : List (List Char)} (h : parts cs = p :: ps)
    (hp : isWord p = true) :
    ∃ c cs' p', cs = c :: cs' ∧ c ≠ '.' ∧ isStart c = true ∧ parts cs' = p' :: ps
      ∧ p'.all isPart = true := by
  cases cs with
  | nil =>
    obtain ⟨rfl, -⟩ := List.cons.inj h
    exact absurd hp (by simp [isWord])
  | cons c cs =>
    obtain ⟨q, qs, hq⟩ := exists_parts cs
    by_cases hc : c = '.'
    · subst hc
      rw [parts_dot] at h
      obtain ⟨rfl, -⟩ := List.cons.inj h
      exact absurd hp (by simp [isWord])
    · rw [parts_cons hc hq] at h
      obtain ⟨rfl, rfl⟩ := List.cons.inj h
      rw [isWord, Bool.and_eq_true] at hp
      exact ⟨c, cs, q, rfl, hc, hp.1, hq, hp.2⟩

theorem parts_dropWhile {cs p : List Char} {ps : List (List Char)} (h : parts cs = p :: ps) :
    ∃ q, parts (cs.dropWhile isPart) = q :: ps ∧ p.all isPart = q.all isPart := by
  induction cs generalizing p with
  | nil => exact ⟨p, h, rfl⟩
  | cons c cs ih =>
    by_cases hc : isPart c = true
    · rw [List.dropWhile_cons_of_pos hc]
      obtain ⟨q, qs, hq⟩ := exists_parts cs
      rw [parts_cons (ne_dot_of_isPart hc) hq] at h
      obtain ⟨rfl, rfl⟩ := List.cons.inj h
      obtain ⟨q', hq', hall⟩ := ih hq
      exact ⟨q', hq', by rw [List.all_cons, hc, Bool.true_and, hall]⟩
    · rw [List.dropWhile_cons_of_neg hc]
      exact ⟨p, h, rfl⟩

/-- A dot parts the text before it from the text after it. -/
theorem parts_append_dot (cs ds : List Char) : parts (cs ++ '.' :: ds) = parts cs ++ parts ds := by
  induction cs with
  | nil => exact parts_dot ds
  | cons c cs ih =>
    obtain ⟨p, ps, hparts⟩ := exists_parts cs
    rw [hparts] at ih
    by_cases hc : c = '.'
    · subst hc
      rw [List.cons_append, parts_dot, parts_dot, ih, hparts]
      rfl
    · rw [List.cons_append, parts_cons hc ih, parts_cons hc hparts]
      rfl

theorem parts_of_not_mem {cs : List Char} (h : '.' ∉ cs) : parts cs = [cs] := by
  induction cs with
  | nil => rfl
  | cons c cs ih =>
    rw [List.mem_cons, not_or] at h
    exact parts_cons (Ne.symm h.1) (ih h.2)

/-- The parts of a text make the text up, with dots between them. -/
theorem intercalate_parts (cs : List Char) : ['.'].intercalate (parts cs) = cs := by
  induction cs with
  | nil => rfl
  | cons c cs ih =>
    obtain ⟨p, ps, hparts⟩ := exists_parts cs
    rw [hparts] at ih
    by_cases hc : c = '.'
    · subst hc
      rw [parts_dot, hparts, List.intercalate_cons_of_ne_nil (List.cons_ne_nil _ _), ih]
      rfl
    · rw [parts_cons hc hparts]
      cases ps with
      | nil => rw [List.intercalate_singleton] at ih ⊢; rw [ih]
      | cons q qs =>
        rw [List.intercalate_cons_of_ne_nil (List.cons_ne_nil _ _)] at ih ⊢
        rw [← ih]
        rfl

/-- What is before the last dot of a name is its owner. -/
theorem owner?_append {owner last : String} (h : '.' ∉ last.toList) :
    owner? (owner ++ "." ++ last) = some owner := by
  have htext : (owner ++ "." ++ last).toList = owner.toList ++ '.' :: last.toList := by simp
  obtain ⟨p, ps, hparts⟩ := exists_parts owner.toList
  rw [owner?, htext, parts_append_dot, parts_of_not_mem h, List.dropLast_concat, hparts]
  show some (String.ofList (['.'].intercalate (p :: ps))) = some owner
  rw [← hparts, intercalate_parts, String.ofList_toList]

/-- A name before the text reaches into it: with a character of a word, or with a dot and the
start of a word. -/
inductive GoesOn : List Char → Prop
  | part {c : Char} {cs : List Char} (h : isPart c = true) : GoesOn (c :: cs)
  | dot {c : Char} {cs : List Char} (h : isStart c = true) : GoesOn ('.' :: c :: cs)

theorem not_goesOn_tail (cs : List Char) : ¬ GoesOn (tail cs).2 := by
  fun_induction tail cs with
  | case1 => rintro ⟨⟩
  | case2 c cs hc name rest heq ih => rwa [heq] at ih
  | case3 c cs hc =>
    intro h
    cases h with
    | part h => exact absurd h (by decide)
    | dot h => exact hc h
  | case4 c cs hdot hc name rest heq ih => rwa [heq] at ih
  | case5 c cs hdot hc =>
    intro h
    cases h with
    | part h => exact hc h
    | dot h => exact hdot _ _ rfl rfl

theorem isPart_of_mem_tail {cs : List Char} : ∀ d ∈ (tail cs).1, isPart d = true ∨ d = '.' := by
  fun_induction tail cs with
  | case2 c cs hc name rest heq ih =>
    rw [heq] at ih
    intro d hd
    rcases List.mem_cons.1 hd with rfl | hd
    · exact .inr rfl
    rcases List.mem_cons.1 hd with rfl | hd
    · exact .inl (isPart_of_isStart hc)
    · exact ih d hd
  | case4 c cs hdot hc name rest heq ih =>
    rw [heq] at ih
    intro d hd
    rcases List.mem_cons.1 hd with rfl | hd
    · exact .inl hc
    · exact ih d hd
  | _ => simp

/-- What a name takes off a text ends its first word and goes on with whole words. -/
theorem exists_parts_tail (cs : List Char) :
    ∃ p ps, parts (tail cs).1 = p :: ps ∧ p.all isPart = true ∧ ps.all isWord = true := by
  fun_induction tail cs with
  | case2 c cs hc name rest heq ih =>
    rw [heq] at ih
    obtain ⟨p, ps, hparts, hp, hps⟩ := ih
    refine ⟨[], (c :: p) :: ps, ?_, rfl, ?_⟩
    · rw [parts_dot, parts_cons (ne_dot_of_isPart (isPart_of_isStart hc)) hparts]
    · rw [List.all_cons, isWord, hc, hp, hps]
      rfl
  | case4 c cs hdot hc name rest heq ih =>
    rw [heq] at ih
    obtain ⟨p, ps, hparts, hp, hps⟩ := ih
    refine ⟨c :: p, ps, parts_cons (ne_dot_of_isPart hc) hparts, ?_, hps⟩
    rw [List.all_cons, hc, hp]
    rfl
  | _ => exact ⟨[], [], rfl, rfl, rfl⟩

/-- What is taken off a text after the start of a word is a name with it. -/
theorem isColumn_tail {c : Char} (hc : isStart c = true) (cs : List Char) :
    isColumn (String.ofList (c :: (tail cs).1)) = true := by
  obtain ⟨p, ps, hparts, hp, hps⟩ := exists_parts_tail cs
  have hdot : c ≠ '.' := ne_dot_of_isPart (isPart_of_isStart hc)
  rw [isColumn, String.toList_ofList, parts_cons hdot hparts, List.all_cons, isWord, hc, hp, hps]
  rfl

theorem owner?_of_not_mem {name : String} (h : '.' ∉ name.toList) : owner? name = none := by
  rw [owner?, parts_of_not_mem h]
  rfl

end RowScope.Name
