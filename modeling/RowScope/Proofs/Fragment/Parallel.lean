/-
Texts that differ between quotes only.

* `endsInside` — whether a text ends between quotes;
* `Parallel` — two texts that differ between quotes only;
* `first_of_parallel` — their first tokens are the same up to a quoted text, and what follows
  them is parallel again;
* `Filter.outline_of_parallel` — they spell conditions of one outline.

Design notes: a quote that is written twice is no end of a quoted text, so between quotes it
counts like any other character.  Two quoted texts side by side are one text for the same
reason.
-/
import RowScope.Proofs.Fragment.Outline
import RowScope.Proofs.Fragment.Words

namespace RowScope

/-- Whether the end of a text is between quotes, if its start is `inside` or not. -/
def endsInside (inside : Bool) (cs : List Char) : Bool :=
  cs.foldl (fun inside c => if c = '\'' then !inside else inside) inside

/-- Two texts that differ between quotes only, and may start there. -/
inductive Parallel : Bool → List Char → List Char → Prop
  | nil (inside : Bool) : Parallel inside [] []
  -- Without quotes around them the texts are the same.
  | same {c : Char} {cs ds : List Char} (hc : c ≠ '\'') (h : Parallel false cs ds) :
      Parallel false (c :: cs) (c :: ds)
  | opening {cs ds : List Char} (h : Parallel true cs ds) :
      Parallel false ('\'' :: cs) ('\'' :: ds)
  | closing {cs ds : List Char} (h : Parallel false cs ds) :
      Parallel true ('\'' :: cs) ('\'' :: ds)
  -- Between quotes each text may have more.
  | left {c : Char} {cs ds : List Char} (hc : c ≠ '\'') (h : Parallel true cs ds) :
      Parallel true (c :: cs) ds
  | right {c : Char} {cs ds : List Char} (hc : c ≠ '\'') (h : Parallel true cs ds) :
      Parallel true cs (c :: ds)
  | leftTwice {cs ds : List Char} (h : Parallel true cs ds) :
      Parallel true ('\'' :: '\'' :: cs) ds
  | rightTwice {cs ds : List Char} (h : Parallel true cs ds) :
      Parallel true cs ('\'' :: '\'' :: ds)

namespace Quoted

/-- What follows the closing quote, if there is one. -/
def rest? (cs : List Char) : Option (List Char) :=
  (close? cs).map Prod.snd

theorem rest?_twice (cs : List Char) : rest? ('\'' :: '\'' :: cs) = rest? cs := by
  rw [rest?, close?, Option.map_map]
  rfl

theorem rest?_quote {cs : List Char} (h : ∀ cs', cs ≠ '\'' :: cs') :
    rest? ('\'' :: cs) = some cs := by
  rw [rest?, close?]
  · rfl
  · exact h

theorem rest?_cons {c : Char} (hc : c ≠ '\'') (cs : List Char) : rest? (c :: cs) = rest? cs := by
  rw [rest?, close?, Option.map_map]
  · rfl
  · intro cs' h
    exact absurd h hc
  · intro h
    exact absurd h hc

end Quoted

/-- Two cuts with one token, up to its text, and parallel texts after them. -/
structure SameCut (a b : Cut) : Prop where
  token : a.token?.map Token.outline = b.token?.map Token.outline
  rest : Parallel false a.rest b.rest

section Cutting

variable {cs ds : List Char}

/-- Texts that start between quotes are closed together. -/
theorem rest?_of_parallel {inside : Bool} (h : Parallel inside cs ds) :
    if inside then Option.Rel (Parallel false) (Quoted.rest? cs) (Quoted.rest? ds)
    else Option.Rel (Parallel false) (Quoted.rest? ('\'' :: cs)) (Quoted.rest? ('\'' :: ds)) := by
  induction h with
  | nil inside =>
    cases inside with
    | false => exact .some (.nil false)
    | true => exact .none
  | same hc h _ =>
    rw [if_neg Bool.false_ne_true, Quoted.rest?_quote fun _ he => hc (List.cons.inj he).1,
      Quoted.rest?_quote fun _ he => hc (List.cons.inj he).1]
    exact .some (.same hc h)
  | opening _ ih =>
    rw [if_neg Bool.false_ne_true, Quoted.rest?_twice, Quoted.rest?_twice]
    exact ih
  | closing _ ih => exact ih
  | left hc _ ih =>
    rw [Quoted.rest?_cons hc]
    exact ih
  | right hc _ ih =>
    rw [Quoted.rest?_cons hc]
    exact ih
  | leftTwice _ ih =>
    rw [Quoted.rest?_twice]
    exact ih
  | rightTwice _ ih =>
    rw [Quoted.rest?_twice]
    exact ih

theorem quoted_of_parallel (h : Parallel true cs ds) : SameCut (Cut.quoted cs) (Cut.quoted ds) := by
  have hrest : Option.Rel (Parallel false) (Quoted.rest? cs) (Quoted.rest? ds) :=
    rest?_of_parallel h
  unfold Cut.quoted
  unfold Quoted.rest? at hrest
  generalize Quoted.close? cs = a at hrest ⊢
  generalize Quoted.close? ds = b at hrest ⊢
  rcases a with _ | ⟨body, rest⟩
  · rcases b with _ | ⟨body', rest'⟩
    · exact ⟨rfl, .nil false⟩
    · cases hrest
  · rcases b with _ | ⟨body', rest'⟩
    · cases hrest
    · cases hrest with
      | some h => exact ⟨rfl, h⟩

theorem takeWhile_of_parallel {p : Char → Bool} (hp : p '\'' = false) (h : Parallel false cs ds) :
    cs.takeWhile p = ds.takeWhile p ∧ Parallel false (cs.dropWhile p) (ds.dropWhile p) := by
  induction cs generalizing ds with
  | nil =>
    cases h
    exact ⟨rfl, .nil false⟩
  | cons c cs ih =>
    cases h with
    | same hc h =>
      by_cases hpc : p c = true
      · rw [List.takeWhile_cons_of_pos hpc, List.takeWhile_cons_of_pos hpc,
          List.dropWhile_cons_of_pos hpc, List.dropWhile_cons_of_pos hpc, (ih h).1]
        exact ⟨rfl, (ih h).2⟩
      · rw [List.takeWhile_cons_of_neg hpc, List.takeWhile_cons_of_neg hpc,
          List.dropWhile_cons_of_neg hpc, List.dropWhile_cons_of_neg hpc]
        exact ⟨rfl, .same hc h⟩
    | opening h =>
      rw [List.takeWhile_cons_of_neg (by simp [hp]), List.takeWhile_cons_of_neg (by simp [hp]),
        List.dropWhile_cons_of_neg (by simp [hp]), List.dropWhile_cons_of_neg (by simp [hp])]
      exact ⟨rfl, .opening h⟩

theorem nameTail_of_parallel (dots : Nat) (inWord : Bool) (h : Parallel false cs ds) :
    (Cut.nameTail dots inWord cs).1 = (Cut.nameTail dots inWord ds).1 ∧
      Parallel false (Cut.nameTail dots inWord cs).2 (Cut.nameTail dots inWord ds).2 := by
  induction cs generalizing ds dots inWord with
  | nil =>
    cases h
    exact ⟨rfl, .nil false⟩
  | cons c cs ih =>
    cases h with
    | same hc h =>
      by_cases hdot : c = '.' ∧ 0 < dots
      · obtain ⟨htext, hrest⟩ := ih (dots - 1) false h
        simp only [Cut.nameTail, if_pos hdot]
        exact ⟨congrArg (c :: ·) htext, hrest⟩
      · by_cases hword : (if inWord then Name.isPart c else Name.isStart c) = true
        · obtain ⟨htext, hrest⟩ := ih 2 true h
          simp only [Cut.nameTail, if_neg hdot, hword, if_true]
          exact ⟨congrArg (c :: ·) htext, hrest⟩
        · simp only [Cut.nameTail, if_neg hdot, hword]
          exact ⟨rfl, .same hc h⟩
    | opening h =>
      have hquote (cs : List Char) : Cut.nameTail dots inWord ('\'' :: cs) = ([], '\'' :: cs) := by
        have hword : (if inWord then Name.isPart '\'' else Name.isStart '\'') = false := by
          cases inWord <;> decide
        rw [Cut.nameTail, if_neg (fun h => absurd h.1 (by decide)), hword]
        rfl
      rw [hquote, hquote]
      exact ⟨rfl, .opening h⟩

theorem name_of_parallel (c : Char) (h : Parallel false cs ds) :
    SameCut (Cut.name c cs) (Cut.name c ds) := by
  obtain ⟨htake, hdrop⟩ := takeWhile_of_parallel (p := Name.isPart) (by decide) h
  obtain ⟨htext, hrest⟩ := nameTail_of_parallel
    (Cut.dotsAfter (c :: cs.takeWhile Name.isPart)) true hdrop
  rw [htake] at htext hrest
  refine ⟨?_, ?_⟩
  · simp only [Cut.name, htake, htext]
  · simp only [Cut.name, htake]
    exact hrest

theorem number_of_parallel (sign : List Char) (h : Parallel false cs ds) :
    SameCut (Cut.number sign cs) (Cut.number sign ds) := by
  obtain ⟨htake, hdrop⟩ := takeWhile_of_parallel (p := Char.isDigit) (by decide) h
  unfold Cut.number
  rw [htake]
  generalize cs.dropWhile Char.isDigit = cs' at hdrop ⊢
  generalize ds.dropWhile Char.isDigit = ds' at hdrop ⊢
  cases hdrop with
  | nil => exact ⟨rfl, .nil false⟩
  | opening h => exact ⟨rfl, .opening h⟩
  | @same c cs ds hc h =>
    by_cases hdot : c = '.'
    · subst hdot
      obtain ⟨htake', hdrop'⟩ := takeWhile_of_parallel (p := Char.isDigit) (by decide) h
      simp only [htake']
      split
      · exact ⟨rfl, .same hc h⟩
      · exact ⟨rfl, hdrop'⟩
    · split
      · next heq => exact absurd (List.cons.inj heq).1 hdot
      · split
        · next heq => exact absurd (List.cons.inj heq).1 hdot
        · exact ⟨rfl, .same hc h⟩

/-- A sign that is no number is cut off alone, or with the character after it, which is no
quote. -/
theorem first_sign {c : Char} (hstart : Name.isStart c = false) (hdigit : c.isDigit = false)
    (hc : c ≠ '\'') (d : Char) (hd : c = '-' → d.isDigit = false) :
    ∃ token?, (d ≠ '\'' ∧ ∀ cs, Cut.first c (d :: cs) = ⟨[c, d], cs, token?⟩) ∨
      ∀ cs, Cut.first c (d :: cs) = ⟨[c], d :: cs, token?⟩ := by
  by_cases htwo : [c, d] ∈ [['!', '='], ['<', '>'], ['<', '='], ['>', '=']]
  · simp only [List.mem_cons, List.cons.injEq, and_true, List.not_mem_nil, or_false] at htwo
    rcases htwo with ⟨rfl, rfl⟩ | ⟨rfl, rfl⟩ | ⟨rfl, rfl⟩ | ⟨rfl, rfl⟩
    all_goals exact ⟨_, .inl ⟨by decide, fun cs => rfl⟩⟩
  -- what is left of the signs is cut off alone, so only its token is to be found
  obtain ⟨token?, htoken⟩ : ∃ token?, ∀ cs, Cut.first c (d :: cs) = ⟨[c], d :: cs, token?⟩ := by
    by_cases hone : c ∈ ['=', ',', '(', ')', '<', '>']
    · simp only [List.mem_cons, List.not_mem_nil, or_false] at hone
      rcases hone with rfl | rfl | rfl | rfl | rfl | rfl
      iterate 4 exact ⟨_, fun cs => rfl⟩
      · refine ⟨some (.comparison .lt), fun cs => ?_⟩
        simp_all [Cut.first]
      · refine ⟨some (.comparison .gt), fun cs => ?_⟩
        simp_all [Cut.first]
    · refine ⟨none, fun cs => ?_⟩
      unfold Cut.first
      rw [if_neg (by simp [hstart]), if_neg (by simp [hdigit])]
      split
      all_goals simp_all
  exact ⟨token?, .inr htoken⟩

theorem first_of_parallel {c : Char} (hc : c ≠ '\'') (h : Parallel false cs ds) :
    SameCut (Cut.first c cs) (Cut.first c ds) := by
  by_cases hstart : Name.isStart c = true
  · rw [Cut.first_of_isStart hstart, Cut.first_of_isStart hstart]
    exact name_of_parallel c h
  by_cases hdigit : c.isDigit = true
  · rw [Cut.first_of_isDigit hdigit, Cut.first_of_isDigit hdigit]
    exact number_of_parallel [] (.same hc h)
  rw [Bool.not_eq_true] at hstart hdigit
  cases h with
  | nil =>
    have hrest : (Cut.first c []).rest = [] := by
      have := Cut.first_rest_lt c []
      exact List.eq_nil_of_length_eq_zero (by simpa using this)
    refine ⟨rfl, ?_⟩
    rw [hrest]
    exact .nil false
  | opening h =>
    obtain ⟨token?, ⟨hd, -⟩ | hfirst⟩ := first_sign hstart hdigit hc '\'' fun _ => by decide
    · exact absurd rfl hd
    · rw [hfirst, hfirst]
      exact ⟨rfl, .opening h⟩
  | @same d cs ds hd h =>
    by_cases hminus : c = '-' ∧ d.isDigit = true
    · obtain ⟨rfl, hd'⟩ := hminus
      rw [Cut.first_minus_of_isDigit hd', Cut.first_minus_of_isDigit hd']
      exact number_of_parallel ['-'] (.same hd h)
    · obtain ⟨token?, ⟨-, hfirst⟩ | hfirst⟩ := first_sign hstart hdigit hc d fun hc => by
        simpa [hc] using hminus
      · rw [hfirst, hfirst]
        exact ⟨rfl, h⟩
      · rw [hfirst, hfirst]
        exact ⟨rfl, .same hd h⟩

end Cutting

/-- Parallel texts are cut into the same tokens, up to their texts. -/
theorem pieces_of_parallel {cs ds : List Char} (h : Parallel false cs ds) :
    (pieces cs).map (Option.map Token.outline) = (pieces ds).map (Option.map Token.outline) := by
  cases h with
  | nil => rfl
  | @same c cs ds hc h =>
    by_cases hblank : Lexeme.isBlank c = true
    · rw [pieces_blank hblank, pieces_blank hblank]
      exact pieces_of_parallel h
    · rw [Bool.not_eq_true] at hblank
      have hcut := first_of_parallel hc h
      have := Cut.first_rest_lt c cs
      rw [pieces_first hblank, pieces_first hblank, List.map_cons, List.map_cons, hcut.token,
        pieces_of_parallel hcut.rest]
  | @opening cs ds h =>
    have hcut : SameCut (Cut.first '\'' cs) (Cut.first '\'' ds) := quoted_of_parallel h
    have := Cut.first_rest_lt '\'' cs
    rw [pieces_first rfl, pieces_first rfl, List.map_cons, List.map_cons, hcut.token,
      pieces_of_parallel hcut.rest]
termination_by cs.length

/-- Parallel texts spell conditions of one outline, if they spell conditions. -/
theorem Filter.outline_of_parallel {a b : String} {f g : Filter}
    (h : Parallel false a.toList b.toList) (hf : parse a = .ok f) (hg : parse b = .ok g) :
    f.outline = g.outline := by
  obtain ⟨ts, hts, hf⟩ := Filter.parse_eq_ok_iff.1 hf
  obtain ⟨us, hus, hg⟩ := Filter.parse_eq_ok_iff.1 hg
  have hpieces := pieces_of_parallel h
  rw [hts, hus, List.map_map, List.map_map] at hpieces
  refine Language.outline_eq_of_readTokens ?_ hf hg
  refine (List.map_inj_right fun _ _ => Option.some.inj).1 ?_
  rw [List.map_map, List.map_map]
  exact hpieces

end RowScope
