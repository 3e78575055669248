/-
Reading tokens without their places.

What a fragment spells depends on its tokens only.  The places and the texts of its
lexemes are needed for the errors.

* `Reader.accept` — the reader after one more token;
* `readTokens` — the condition that a sequence of tokens spells, if it spells one;
* `Filter.parse_eq_ok_iff` — a text spells what its tokens spell;
* `Reader.settled` — a reader that takes a truth value for the condition it is.

Design notes: `TRUE` and `FALSE` may start a comparison, so the reader waits for the next
token before it takes them for conditions.  Where a connective follows, or the end, the
reader goes on as the settled one does.
-/
import RowScope.Proofs.Fragment.Pieces
import RowScope.Proofs.Sequences
import RowScope.Fragment.Reader

namespace RowScope

namespace Reader

/-- The reader after one more token, wherever that stands. -/
def accept (r : Reader) (t : Token) : Option Reader :=
  (r.stepToken ⟨0, [], some t⟩ t).toOption

/-- The reader after some tokens. -/
def acceptAll (r : Reader) (ts : List Token) : Option Reader :=
  ts.foldlM accept r

/-- The reader without the text of the operand that waits for its operator. -/
def forget (r : Reader) : Reader :=
  match r.phase with
  | .operator left _ => r.expecting (.operator left "")
  | _ => r

@[simp] theorem acceptAll_nil (r : Reader) : r.acceptAll [] = some r := rfl

theorem acceptAll_cons (r : Reader) (t : Token) (ts : List Token) :
    r.acceptAll (t :: ts) = (r.accept t).bind (acceptAll · ts) := by
  rw [acceptAll, List.foldlM_cons]
  rfl

theorem acceptAll_append (r : Reader) (ts us : List Token) :
    r.acceptAll (ts ++ us) = (r.acceptAll ts).bind (acceptAll · us) := by
  rw [acceptAll, List.foldlM_append]
  rfl

theorem stepConnective_eq (r : Reader) (t : Token) (span : Span) :
    (r.stepConnective t span).toOption.map forget = (r.stepConnective t ⟨0, 0⟩).toOption := by
  rcases r with ⟨_ | ⟨level, outer⟩, l, phase⟩
  all_goals
    cases t with
    | keyword k => cases k <;> rfl
    | _ => rfl

/-- The place and the text of a lexeme have no effect on where its token leads to. -/
theorem forget_stepToken (r : Reader) (l : Lexeme) (t : Token) :
    (r.stepToken l t).toOption.map forget = r.forget.accept t := by
  rcases r with ⟨outer, level, phase⟩
  cases phase with
  | operator left text =>
    -- the text of the operand is kept here only, and only the error speaks of it
    show (stepOperator _ left text t l.span).toOption.map forget
      = (stepOperator _ left "" t ⟨0, 0⟩).toOption
    unfold stepOperator
    split
    all_goals try rfl
    cases left.condition? with
    | none => rfl
    | some f => exact stepConnective_eq _ t l.span
  | connective => exact stepConnective_eq _ t l.span
  | _ =>
    cases t with
    | keyword k => cases k <;> rfl
    | _ => rfl

theorem finish_forget (r : Reader) : r.forget.finish = r.finish := by
  rcases r with ⟨outer, level, phase⟩
  cases phase
  all_goals rfl

theorem forget_run {ls : List Lexeme} {ts : List Token} (h : ls.map Lexeme.token? = ts.map some)
    (r : Reader) : (r.run ls).toOption.map forget = r.forget.acceptAll ts := by
  induction ls generalizing r ts with
  | nil =>
    obtain rfl := List.map_eq_nil_iff.1 h.symm
    rfl
  | cons l ls ih =>
    obtain ⟨t, ts, rfl, ht, hts⟩ := List.map_eq_cons_iff.1 h.symm
    have hstep : r.step l = r.stepToken l t := by
      unfold step
      rw [← ht]
    rw [acceptAll_cons, ← forget_stepToken r l t, run, List.foldlM_cons, hstep]
    rcases r.stepToken l t with e | r'
    · rfl
    · exact ih hts.symm r'

/-- What was read without an error is a sequence of tokens. -/
theorem exists_tokens_of_run {ls : List Lexeme} {r r' : Reader} (h : r.run ls = .ok r') :
    ∃ ts : List Token, ls.map Lexeme.token? = ts.map some := by
  induction ls generalizing r with
  | nil => exact ⟨[], rfl⟩
  | cons l ls ih =>
    rw [run, List.foldlM_cons] at h
    obtain ⟨r₁, hstep, hrun⟩ := Except.bind_eq_ok_iff.1 h
    obtain ⟨ts, hts⟩ := ih hrun
    unfold step at hstep
    split at hstep
    · next t ht => exact ⟨t :: ts, by rw [List.map_cons, List.map_cons, ht, hts]⟩
    · exact absurd hstep (by simp)

/-- The reader that takes a truth value on its own for the condition it is. -/
def settled (r : Reader) : Reader :=
  match r.phase with
  | .operator left _ =>
    match left.condition? with
    | some f => r.complete f
    | none => r
  | _ => r

theorem finish_settled (r : Reader) : r.settled.finish.toOption = r.finish.toOption := by
  rcases r with ⟨outer, level, phase⟩
  cases phase with
  | operator left text =>
    cases h : left.condition? with
    | none => simp only [settled, h]
    | some f => simp only [settled, finish, h, complete]
  | _ => rfl

/-- A settled reader goes on with a connective, or at the end of a group, as before. -/
theorem accept_settled {t : Token}
    (ht : t = .keyword .and ∨ t = .keyword .or ∨ t = .rightParen) (r : Reader) :
    r.settled.accept t = r.accept t := by
  rcases r with ⟨outer, level, phase⟩
  cases phase with
  | operator left text =>
    cases h : left.condition? with
    | none => simp only [settled, h]
    | some f =>
      rcases ht with rfl | rfl | rfl
      all_goals simp only [settled, accept, stepToken, stepOperator, h, complete]
  | _ => rfl

end Reader

/-- The condition that a sequence of tokens spells, if it spells one. -/
def readTokens (ts : List Token) : Option Filter :=
  (Reader.start.acceptAll ts).bind fun r => r.finish.toOption

theorem ofLexemes_eq_ok_iff {ls : List Lexeme} {ts : List Token} {e : Filter}
    (h : ls.map Lexeme.token? = ts.map some) :
    Filter.ofLexemes ls = .ok e ↔ readTokens ts = some e := by
  have hrun := Reader.forget_run h Reader.start
  have hstart : Reader.start.forget = Reader.start := rfl
  rw [readTokens, ← hstart, ← hrun, Filter.ofLexemes]
  cases Reader.start.run ls with
  | error err => simp [Except.toOption, bind, Except.bind]
  | ok r =>
    show r.finish = .ok e ↔ r.forget.finish.toOption = some e
    rw [Reader.finish_forget, Except.toOption_eq_some_iff]

/-- A text spells a condition if it is cut into tokens that spell it. -/
theorem Filter.parse_eq_ok_iff {s : String} {e : Filter} :
    parse s = .ok e
      ↔ ∃ ts : List Token, pieces s.toList = ts.map some ∧ readTokens ts = some e := by
  rw [parse, Except.mapError_eq_ok_iff]
  constructor
  · intro h
    obtain ⟨r, hrun, -⟩ := Except.bind_eq_ok_iff.1 h
    obtain ⟨ts, hts⟩ := Reader.exists_tokens_of_run hrun
    exact ⟨ts, hts, (ofLexemes_eq_ok_iff hts).1 h⟩
  · rintro ⟨ts, hts, he⟩
    exact (ofLexemes_eq_ok_iff hts).2 he

end RowScope
