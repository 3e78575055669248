/-
Where a fragment goes wrong.

A text that spells no condition has a first lexeme with which it stops being the start of one, or
it ends too early.  The finding speaks of exactly that place.

* `Lexeme.exists_of_mem_all` — a lexeme is a part of the text, and its span is where it stands;
* `Reader.exists_finish` — a reader can always be brought to an end;
* `Language.Begins` — some lexemes are the start of a sentence;
* `Language.begins_iff` — these are the lexemes that the reader takes;
* `Language.IsFault` — a lexeme with which a text stops being the start of a sentence;
* `Filter.span_of_parse_error` — the finding about a text speaks of its fault, or of its end.

Design notes: a reader never looks ahead, so it fails at a lexeme as soon as nothing can come of
it.  That it fails no later is seen from the other side: whatever a reader has taken, a few more
tokens close what is open and leave a condition.
-/
import RowScope.Proofs.Fragment.Language

namespace RowScope

/-! ### Places -/

namespace Lexeme

variable {offset : Nat} {cs : List Char} {l : Lexeme}

theorem exists_of_mem_allFrom (h : l ∈ allFrom offset cs) :
    ∃ before after, cs = before ++ l.text ++ after ∧ l.start = offset + byteLength before := by
  fun_induction allFrom offset cs with
  | case1 => exact absurd h List.not_mem_nil
  | case2 offset cs first rest hfirst _ ih =>
    obtain ⟨blanks, rfl, -, -, hstart⟩ := exists_of_next? hfirst
    rcases List.mem_cons.1 h with rfl | h
    · exact ⟨blanks, rest, (List.append_assoc _ _ _).symm, hstart⟩
    · obtain ⟨before, after, rfl, hl⟩ := ih h
      refine ⟨blanks ++ first.text ++ before, after, by simp, ?_⟩
      rw [hl, span, hstart]
      simp [Nat.add_assoc]

/-- A lexeme is a part of the text, and its span is where it stands. -/
theorem exists_of_mem_all (h : l ∈ all cs) :
    ∃ before after, cs = before ++ l.text ++ after ∧
      l.span = ⟨byteLength before, byteLength (before ++ l.text)⟩ := by
  obtain ⟨before, after, hcs, hstart⟩ := exists_of_mem_allFrom h
  refine ⟨before, after, hcs, ?_⟩
  rw [span, hstart, Nat.zero_add, byteLength_append]

end Lexeme

/-! ### Ends -/

namespace Reader

variable {r r' : Reader} {l : Lexeme} {ls ms : List Lexeme} {e : SyntaxError}

/-- The parentheses that are open can be closed. -/
theorem exists_finish_of_connective (outer : List Level) (level : Level) :
    ∃ ts q f, acceptAll ⟨outer, level, .connective⟩ ts = some q ∧ q.finish = .ok f := by
  induction outer generalizing level with
  | nil => exact ⟨[], _, level.result, rfl, rfl⟩
  | cons l outer ih =>
    obtain ⟨ts, q, f, hq, hf⟩ := ih (l.add (.group level.result))
    exact ⟨.rightParen :: ts, q, f, hq, hf⟩

/-- A condition that was begun can be completed. -/
theorem exists_connective (r : Reader) :
    ∃ ts level, r.acceptAll ts = some ⟨r.outer, level, .connective⟩ := by
  rcases r with ⟨outer, level, phase⟩
  cases phase with
  | condition => exact ⟨[.keyword .null, .keyword .is, .keyword .null], _, rfl⟩
  | operator left text => exact ⟨[.keyword .is, .keyword .null], _, rfl⟩
  | right left c => exact ⟨[.keyword .null], _, rfl⟩
  | afterIs left => exact ⟨[.keyword .null], _, rfl⟩
  | afterIsNot left => exact ⟨[.keyword .null], _, rfl⟩
  | afterNot left => exact ⟨[.keyword .like, .text ""], _, rfl⟩
  | listOpen left negated => exact ⟨[.leftParen, .rightParen], _, rfl⟩
  | listFirst left negated => exact ⟨[.rightParen], _, rfl⟩
  | listMember left negated members => exact ⟨[.keyword .null, .rightParen], _, rfl⟩
  | listNext left negated members => exact ⟨[.rightParen], _, rfl⟩
  | pattern left negated => exact ⟨[.text ""], _, rfl⟩
  | connective => exact ⟨[], _, rfl⟩

/-- **No reader is stuck**: after some more tokens it has read a condition. -/
theorem exists_finish (r : Reader) : ∃ ts q f, r.acceptAll ts = some q ∧ q.finish = .ok f := by
  obtain ⟨ts, level, hts⟩ := r.exists_connective
  obtain ⟨us, q, f, hq, hf⟩ := exists_finish_of_connective r.outer level
  refine ⟨ts ++ us, q, f, ?_, hf⟩
  rw [acceptAll_append, hts, Option.bind_some, hq]

/-! ### Runs that fail -/

theorem run_append_cons (h : r.run ls = .ok r') (l : Lexeme) (ms : List Lexeme) :
    r.run (ls ++ l :: ms) = r'.step l >>= (run · ms) := by
  rw [run] at h
  rw [run, List.foldlM_append, h]
  rfl

/-- A run fails at one of its lexemes. -/
theorem exists_of_run_error (h : r.run ls = .error e) :
    ∃ before l after r', ls = before ++ l :: after ∧ r.run before = .ok r' ∧
      r'.step l = .error e := by
  induction ls generalizing r with
  | nil => cases h
  | cons l ls ih =>
    rw [run, List.foldlM_cons] at h
    cases hstep : r.step l with
    | error e' =>
      rw [hstep] at h
      obtain rfl := Except.error.inj h
      exact ⟨[], l, ls, r, rfl, rfl, hstep⟩
    | ok r₁ =>
      rw [hstep] at h
      obtain ⟨before, l', after, r', rfl, hrun, hlast⟩ := ih h
      refine ⟨l :: before, l', after, r', rfl, ?_, hlast⟩
      rw [run, List.foldlM_cons, hstep]
      exact hrun

section Spans

variable {source : List Char} {t : Token} {span : Span}

theorem span_of_stepConnective (h : r.stepConnective t span = .error e) :
    (e.diagnostic source).span = span := by
  unfold stepConnective at h
  split at h
  all_goals
    cases h
    try rfl

theorem span_of_stepMember {left : Operand} {negated : Bool} {members : List Operand}
    (h : r.stepMember left negated members t span = .error e) :
    (e.diagnostic source).span = span := by
  unfold stepMember at h
  split at h
  all_goals
    cases h
    try rfl

theorem span_of_stepOperator {left : Operand} {text : String}
    (h : r.stepOperator left text t span = .error e) : (e.diagnostic source).span = span := by
  unfold stepOperator at h
  split at h
  all_goals try cases h
  split at h
  · exact span_of_stepConnective h
  · cases h
    rfl

theorem span_of_stepCondition (h : r.stepCondition l t = .error e) :
    (e.diagnostic source).span = l.span := by
  unfold stepCondition at h
  split at h
  all_goals try cases h
  split at h
  all_goals
    cases h
    try rfl

/-- An error at a lexeme speaks of its place. -/
theorem span_of_step (h : r.step l = .error e) : (e.diagnostic source).span = l.span := by
  unfold step at h
  split at h
  · next t ht =>
    rcases r with ⟨outer, level, phase⟩
    cases phase with
    | condition => exact span_of_stepCondition h
    | operator left text => exact span_of_stepOperator h
    | connective => exact span_of_stepConnective h
    | listMember left negated members => exact span_of_stepMember h
    | listFirst left negated =>
      dsimp only [stepToken] at h
      split at h
      · cases h
      · exact span_of_stepMember h
    | _ =>
      dsimp only [stepToken] at h
      split at h
      all_goals
        cases h
        try rfl
  · cases h
    rfl

end Spans

/-- An error at the end of the fragment says so. -/
theorem exists_of_finish_error (h : r.finish = .error e) : ∃ expected, e = .ends expected := by
  have hclose {r : Reader} (h : r.close = .error e) : ∃ expected, e = .ends expected := by
    unfold close at h
    split at h
    · cases h
    · exact ⟨_, (Except.error.inj h).symm⟩
  unfold finish at h
  split at h
  · exact hclose h
  · split at h
    · exact hclose h
    · exact ⟨_, (Except.error.inj h).symm⟩
  all_goals exact ⟨_, (Except.error.inj h).symm⟩

end Reader

/-! ### Faults -/

namespace Language

variable {ls before after : List Lexeme} {l : Lexeme}

/-- The lexemes are tokens, and some sentence starts with them. -/
def Begins (ls : List Lexeme) : Prop :=
  ∃ (ts us : List Token) (f : Filter),
    ls.map Lexeme.token? = ts.map some ∧ Phrase (.joined .or) (ts ++ us) f

/-- The lexeme `l` of some lexemes is the first with which they are not the start of a sentence:
those before it are one. -/
def IsFault (ls before : List Lexeme) (l : Lexeme) : Prop :=
  (∃ after, ls = before ++ l :: after) ∧ Begins before ∧ ¬ Begins (before ++ [l])

/-- **The reader takes what can become a sentence**, and nothing else. -/
theorem begins_iff : Begins ls ↔ ∃ r, Reader.start.run ls = .ok r := by
  constructor
  · rintro ⟨ts, us, f, hts, hf⟩
    have hread := readTokens_eq_some_iff_phrase.2 hf
    obtain ⟨q, hq, -⟩ := Option.bind_eq_some_iff.1 hread
    rw [Reader.acceptAll_append] at hq
    obtain ⟨r, hr, -⟩ := Option.bind_eq_some_iff.1 hq
    have hrun := Reader.forget_run hts Reader.start
    rw [show Reader.start.forget = Reader.start from rfl, hr] at hrun
    obtain ⟨r', hr', -⟩ := Option.map_eq_some_iff.1 hrun
    exact ⟨r', Except.toOption_eq_some_iff.1 hr'⟩
  · rintro ⟨r, hr⟩
    obtain ⟨ts, hts⟩ := Reader.exists_tokens_of_run hr
    obtain ⟨us, q, f, hq, hf⟩ := r.forget.exists_finish
    have hrun := Reader.forget_run hts Reader.start
    rw [hr] at hrun
    refine ⟨ts, us, f, hts, readTokens_eq_some_iff_phrase.1 ?_⟩
    have hall : Reader.start.acceptAll (ts ++ us) = some q := by
      rw [Reader.acceptAll_append, show Reader.start.acceptAll ts = some r.forget from hrun.symm,
        Option.bind_some, hq]
    rw [readTokens, hall, Option.bind_some, hf]
    rfl

/-- At a fault the reader fails. -/
theorem IsFault.exists_step (h : IsFault ls before l) :
    ∃ (r : Reader) (e : SyntaxError), r.step l = .error e ∧ Reader.start.run ls = .error e := by
  obtain ⟨⟨after, rfl⟩, hbefore, hnot⟩ := h
  obtain ⟨r, hr⟩ := begins_iff.1 hbefore
  cases hstep : r.step l with
  | ok r' =>
    refine absurd (begins_iff.2 ⟨r', ?_⟩) hnot
    rw [Reader.run_append_cons hr, hstep]
    rfl
  | error e =>
    refine ⟨r, e, hstep, ?_⟩
    rw [Reader.run_append_cons hr, hstep]
    rfl

/-- Where the reader fails at a lexeme there is a fault. -/
theorem exists_isFault {e : SyntaxError} (h : Reader.start.run ls = .error e) :
    ∃ before l, IsFault ls before l := by
  obtain ⟨before, l, after, r, rfl, hrun, hstep⟩ := Reader.exists_of_run_error h
  refine ⟨before, l, ⟨after, rfl⟩, begins_iff.2 ⟨r, hrun⟩, fun hbegins => ?_⟩
  obtain ⟨r', hr'⟩ := begins_iff.1 hbegins
  rw [Reader.run_append_cons hrun, hstep] at hr'
  cases hr'

end Language

namespace Filter

open RowScope.Language

/-- A text is rejected at a lexeme or at its end. -/
theorem parse_error_cases {s : String} {d : Diagnostic} (h : parse s = .error d) :
    (∃ e, Reader.start.run (Lexeme.all s.toList) = .error e ∧ e.diagnostic s.toList = d) ∨
    ((∃ r, Reader.start.run (Lexeme.all s.toList) = .ok r) ∧
      d.span = .point (byteLength s.toList)) := by
  unfold parse ofLexemes at h
  cases hrun : Reader.start.run (Lexeme.all s.toList) with
  | error e =>
    rw [hrun] at h
    exact .inl ⟨e, rfl, Except.error.inj h⟩
  | ok r =>
    rw [hrun] at h
    have hfinish : r.finish.mapError (·.diagnostic s.toList) = .error d := h
    refine .inr ⟨⟨r, rfl⟩, ?_⟩
    cases he : r.finish with
    | ok f =>
      rw [he] at hfinish
      cases hfinish
    | error e =>
      obtain ⟨expected, rfl⟩ := Reader.exists_of_finish_error he
      rw [he] at hfinish
      obtain rfl := Except.error.inj hfinish
      rfl

/-- **A finding speaks of the first fault**: its span is the place of a part of the source, and it
is that of the first lexeme with which the source stops being the start of a sentence; if there is
none, it is the end of the source. -/
theorem span_of_parse_error {s : String} {d : Diagnostic} (h : parse s = .error d) :
    (∃ before part after, s.toList = before ++ part ++ after ∧
      d.span = ⟨byteLength before, byteLength (before ++ part)⟩) ∧
    (∀ before l, IsFault (Lexeme.all s.toList) before l → d.span = l.span) ∧
    ((¬ ∃ before l, IsFault (Lexeme.all s.toList) before l) →
      d.span = .point (byteLength s.toList)) := by
  rcases parse_error_cases h with ⟨e, hrun, rfl⟩ | ⟨⟨r, hrun⟩, hspan⟩
  · obtain ⟨before, l, hfault⟩ := exists_isFault hrun
    have hall (before : List Lexeme) (l : Lexeme)
        (hfault : IsFault (Lexeme.all s.toList) before l) :
        (e.diagnostic s.toList).span = l.span := by
      obtain ⟨r, e', hstep, hrun'⟩ := hfault.exists_step
      obtain rfl := Except.error.inj (hrun.symm.trans hrun')
      exact Reader.span_of_step hstep
    refine ⟨?_, hall, fun hnone => absurd ⟨before, l, hfault⟩ hnone⟩
    obtain ⟨after, hlexemes⟩ := hfault.1
    have hmem : l ∈ Lexeme.all s.toList := by
      rw [hlexemes]
      exact List.mem_append_right _ List.mem_cons_self
    obtain ⟨before, after, hs, hl⟩ := Lexeme.exists_of_mem_all hmem
    exact ⟨before, l.text, after, hs, (hall _ l hfault).trans hl⟩
  · refine ⟨⟨s.toList, [], [], by simp, ?_⟩, fun before l hfault => ?_, fun _ => hspan⟩
    · rw [hspan, List.append_nil]
      rfl
    · obtain ⟨_, _, -, hrun'⟩ := hfault.exists_step
      cases hrun.symm.trans hrun'

/-- A truth value before a piece that is no token is a condition, and the piece is the fault. -/
theorem span_of_parse_error_hidden :
    let s := "name = 'é' AND (TRUE ; x"
    ∃ d, parse s = .error d ∧ d.span = ⟨22, 23⟩ ∧
      (∃ before part after, s.toList = before ++ part ++ after ∧
        d.span = ⟨byteLength before, byteLength (before ++ part)⟩) ∧
      (∀ before l, IsFault (Lexeme.all s.toList) before l → d.span = l.span) ∧
      ((¬ ∃ before l, IsFault (Lexeme.all s.toList) before l) →
        d.span = .point (byteLength s.toList)) := by
  intro s
  have hrun : (errorOf? (parse s)).any (fun d => d.span == ⟨22, 23⟩) = true := by
    decide +kernel
  obtain ⟨d, hd, hspan⟩ := (Option.any_eq_true _ _).1 hrun
  have hparse := errorOf?_eq_some_iff.1 hd
  exact ⟨d, hparse, beq_iff_eq.1 hspan, span_of_parse_error hparse⟩

end Filter

end RowScope
