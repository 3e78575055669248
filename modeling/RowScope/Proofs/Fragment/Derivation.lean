/-
Every reading is a derivation.

The grammar says which trees a sequence of tokens has, and the reader comes to each of them.
Here is the other direction: a tree that the reader comes to is derived by the grammar.

* `Derives` — the grammar derives a condition from a sequence of tokens;
* `Reader.HasRead` — the tokens that a reader has read to be where it is;
* `Reader.HasRead.accept` — one more token keeps this so;
* `readTokens_eq_some_iff` — the reader reads exactly what the grammar derives.

Design notes: a reader in the middle of a text has read a part of a phrase at each level, and
what is missing of a part is only known later.  So a part is described by what it is after:
an open parenthesis, a connective, some negations, or the start of a predicate.
-/
import RowScope.Proofs.Fragment.Grammar

namespace RowScope

/-- The grammar derives the condition from the tokens. -/
def Derives (ts : List Token) (e : Filter) : Prop :=
  ∃ clauses, Disjuncts ts clauses ∧ ofClauses clauses = e

/-- One more conjunct for the last disjunct of a phrase. -/
theorem Disjuncts.and {ts us : List Token} {fss : List (List Filter)} {fs gs : List Filter}
    (h : Disjuncts ts (fss ++ [fs])) (h' : Conjuncts us gs) :
    Disjuncts (ts ++ .keyword .and :: us) (fss ++ [fs ++ gs]) := by
  induction fss generalizing ts with
  | nil =>
    cases h with
    | last h => exact .last (h.append h')
    | more _ hrest => cases hrest
  | cons fs' fss ih =>
    rw [List.cons_append] at h
    generalize hlast : fss ++ [fs] = clauses at h
    cases h with
    | last h => exact absurd hlast (by simp)
    | more h hrest =>
      rw [List.append_assoc]
      exact .more h (ih (hlast ▸ hrest))

namespace Level

/-- The tokens of a level whose last condition is complete. -/
def Holds (l : Level) (ts : List Token) : Prop :=
  ∃ fss fs, Disjuncts ts (fss ++ [fs]) ∧ l = ⟨fss.map (merge .and), fs, 0⟩

/-- The tokens of a level where a condition starts. -/
inductive Awaits : Level → List Token → Prop
  | empty : Awaits .empty []
  | and {l : Level} {ts : List Token} (h : l.Holds ts) : Awaits l (ts ++ [.keyword .and])
  | or {l : Level} {ts : List Token} (h : l.Holds ts) :
      Awaits l.nextDisjunct (ts ++ [.keyword .or])
  | not {l : Level} {ts : List Token} (h : Awaits l ts) :
      Awaits { l with negations := l.negations + 1 } (ts ++ [.keyword .not])

theorem Holds.derives {l : Level} {ts : List Token} (h : l.Holds ts) : Derives ts l.result := by
  obtain ⟨fss, fs, hts, rfl⟩ := h
  refine ⟨_, hts, ?_⟩
  rw [ofClauses, List.map_append]
  rfl

/-- The condition that a level waits for takes the negations before it. -/
theorem Awaits.add {l : Level} {ts us : List Token} {f : Filter} (h : l.Awaits ts)
    (hf : Negation us f) : (l.add f).Holds (ts ++ us) := by
  induction h generalizing us f with
  | empty => exact ⟨[], [f], .last (.last hf), rfl⟩
  | and h =>
    obtain ⟨fss, fs, hts, rfl⟩ := h
    refine ⟨fss, fs ++ [f], ?_, rfl⟩
    rw [List.append_assoc]
    exact hts.and (.last hf)
  | or h =>
    obtain ⟨fss, fs, hts, rfl⟩ := h
    refine ⟨fss ++ [fs], [f], ?_, ?_⟩
    · rw [List.append_assoc]
      exact hts.append (.last (.last hf))
    · rw [List.map_append]
      rfl
  | @not l ts _ ih =>
    have hnot : Level.add { l with negations := l.negations + 1 } f = l.add (.not f) := by
      rw [Level.add, Level.add, Reader.negated_not]
    rw [List.append_assoc, hnot]
    exact ih (.not hf)

end Level

/-- The tokens that stand before the levels inside open parentheses. -/
inductive Encloses : List Level → List Token → Prop
  | nil : Encloses [] []
  | cons {l : Level} {outer : List Level} {ts us : List Token} (h : Encloses outer ts)
      (hl : l.Awaits us) : Encloses (l :: outer) (ts ++ (us ++ [.leftParen]))

/-- The tokens of a predicate up to some place in it. -/
inductive Phase.Begun : Phase → List Token → Prop
  | condition : Begun .condition []
  | operator {t : Token} {o : Operand} (text : String) (h : t.operand? = some o) :
      Begun (.operator o text) [t]
  | right {t : Token} {o : Operand} (c : Comparison) (h : t.operand? = some o) :
      Begun (.right o c) [t, .comparison c]
  | afterIs {t : Token} {o : Operand} (h : t.operand? = some o) :
      Begun (.afterIs o) [t, .keyword .is]
  | afterIsNot {t : Token} {o : Operand} (h : t.operand? = some o) :
      Begun (.afterIsNot o) [t, .keyword .is, .keyword .not]
  | afterNot {t : Token} {o : Operand} (h : t.operand? = some o) :
      Begun (.afterNot o) [t, .keyword .not]
  | listOpen {t : Token} {o : Operand} (negated : Bool) (h : t.operand? = some o) :
      Begun (.listOpen o negated) (t :: (notTokens negated ++ [.keyword .member]))
  | listFirst {t : Token} {o : Operand} (negated : Bool) (h : t.operand? = some o) :
      Begun (.listFirst o negated) (t :: (notTokens negated ++ [.keyword .member, .leftParen]))
  | listNext {t : Token} {o : Operand} {ts : List Token} {os : List Operand} (negated : Bool)
      (h : t.operand? = some o) (hmembers : Operands ts os) :
      Begun (.listNext o negated os)
        (t :: (notTokens negated ++ .keyword .member :: .leftParen :: ts))
  | listMember {t : Token} {o : Operand} {ts : List Token} {os : List Operand} (negated : Bool)
      (h : t.operand? = some o) (hmembers : Operands ts os) :
      Begun (.listMember o negated os)
        (t :: (notTokens negated ++ .keyword .member :: .leftParen :: (ts ++ [.comma])))
  | pattern {t : Token} {o : Operand} (negated : Bool) (h : t.operand? = some o) :
      Begun (.pattern o negated) (t :: (notTokens negated ++ [.keyword .like]))

namespace Reader

/-- The tokens that a reader has read, inside a predicate or after a complete condition. -/
inductive HasRead : Reader → List Token → Prop
  | within {outer : List Level} {l : Level} {phase : Phase} {ts us vs : List Token}
      (houter : Encloses outer ts) (hl : l.Awaits us) (hphase : phase.Begun vs) :
      HasRead ⟨outer, l, phase⟩ (ts ++ (us ++ vs))
  | complete {outer : List Level} {l : Level} {ts us : List Token}
      (houter : Encloses outer ts) (hl : l.Holds us) : HasRead ⟨outer, l, .connective⟩ (ts ++ us)

variable {outer : List Level} {l : Level} {ts us vs : List Token} {t : Token} {r r' : Reader}

theorem hasRead_start : start.HasRead [] :=
  .within .nil .empty .condition

/-- A reader goes on inside a predicate. -/
theorem HasRead.goOn {phase : Phase} (houter : Encloses outer ts) (hl : l.Awaits us)
    (hphase : phase.Begun (vs ++ [t])) : HasRead ⟨outer, l, phase⟩ (ts ++ (us ++ vs) ++ [t]) := by
  rw [List.append_assoc, List.append_assoc]
  exact .within houter hl hphase

/-- A reader comes to the end of a predicate. -/
theorem HasRead.finishPredicate {f : Filter} (houter : Encloses outer ts) (hl : l.Awaits us)
    (hf : Predicate (vs ++ [t]) f) :
    HasRead ⟨outer, l.add f, .connective⟩ (ts ++ (us ++ vs) ++ [t]) := by
  rw [List.append_assoc, List.append_assoc]
  exact .complete houter (hl.add (.primary (.predicate hf)))

/-- Only a truth value is a condition on its own. -/
theorem predicate_of_condition? {o : Operand} {f : Filter} (h : t.operand? = some o)
    (hf : o.condition? = some f) : Predicate [t] f := by
  cases t with
  | keyword k =>
    cases k with
    | true =>
      obtain rfl := Option.some.inj h
      obtain rfl := Option.some.inj hf
      exact .always
    | false =>
      obtain rfl := Option.some.inj h
      obtain rfl := Option.some.inj hf
      exact .never
    | null =>
      obtain rfl := Option.some.inj h
      cases hf
    | _ => cases h
  | name s | text s | int n | float x =>
    obtain rfl := Option.some.inj h
    cases hf
  | _ => cases h

/-- After a complete condition. -/
theorem HasRead.stepConnective {span : Span} (houter : Encloses outer ts) (hl : l.Holds us)
    (h : stepConnective ⟨outer, l, .connective⟩ t span = .ok r') :
    r'.HasRead (ts ++ us ++ [t]) := by
  unfold Reader.stepConnective at h
  split at h
  · obtain rfl := Except.ok.inj h
    rw [List.append_assoc]
    have := HasRead.within houter (.and hl) .condition
    rwa [List.append_nil] at this
  · obtain rfl := Except.ok.inj h
    rw [List.append_assoc]
    have := HasRead.within houter (.or hl) .condition
    rwa [List.append_nil] at this
  · next level outer' heq =>
    -- the group is the condition that the level around it waits for
    obtain rfl := Except.ok.inj h
    obtain rfl : outer = level :: outer' := heq
    cases houter with
    | @cons _ _ ts' us' houter' hl' =>
      obtain ⟨clauses, hclauses, hresult⟩ := hl.derives
      have hgroup := hl'.add (.primary (.group hclauses))
      rw [hresult] at hgroup
      have := HasRead.complete houter' hgroup
      simpa [Reader.complete] using this
  · cases h
  · cases h

/-- After a token that starts a condition. -/
theorem HasRead.stepCondition {lexeme : Lexeme} (houter : Encloses outer ts) (hl : l.Awaits us)
    (h : stepCondition ⟨outer, l, .condition⟩ lexeme t = .ok r') :
    r'.HasRead (ts ++ us ++ [t]) := by
  unfold Reader.stepCondition at h
  split at h
  · obtain rfl := Except.ok.inj h
    have := HasRead.within houter (.not hl) .condition
    simpa using this
  · obtain rfl := Except.ok.inj h
    have := HasRead.within (.cons houter hl) .empty .condition
    simpa using this
  · split at h
    · next o ho =>
      obtain rfl := Except.ok.inj h
      rw [List.append_assoc]
      exact .within houter hl (.operator _ ho)
    · cases h

/-- After the operator on an operand, or what may follow a condition. -/
theorem HasRead.stepOperator {o : Operand} {text : String} {t' : Token} {span : Span}
    (houter : Encloses outer ts) (hl : l.Awaits us) (ho : t'.operand? = some o)
    (h : stepOperator ⟨outer, l, .operator o text⟩ o text t span = .ok r') :
    r'.HasRead (ts ++ (us ++ [t']) ++ [t]) := by
  unfold Reader.stepOperator at h
  split at h
  · obtain rfl := Except.ok.inj h
    exact .goOn houter hl (.right _ ho)
  · obtain rfl := Except.ok.inj h
    exact .goOn houter hl (.afterIs ho)
  · obtain rfl := Except.ok.inj h
    exact .goOn houter hl (.listOpen false ho)
  · obtain rfl := Except.ok.inj h
    exact .goOn houter hl (.pattern false ho)
  · obtain rfl := Except.ok.inj h
    exact .goOn houter hl (.afterNot ho)
  · split at h
    · next f hf =>
      have hp := predicate_of_condition? ho hf
      exact .stepConnective houter (hl.add (.primary (.predicate hp))) h
    · cases h

theorem exists_of_stepMember {o : Operand} {negated : Bool} {members : List Operand}
    {span : Span} (h : r.stepMember o negated members t span = .ok r') :
    ∃ m, t.operand? = some m ∧ r.expecting (.listNext o negated (members ++ [m])) = r' := by
  unfold stepMember at h
  split at h
  · next m hm => exact ⟨m, hm, Except.ok.inj h⟩
  · cases h

/-- One more token is read. -/
theorem HasRead.accept (h : r.HasRead ts) (ha : r.accept t = some r') :
    r'.HasRead (ts ++ [t]) := by
  have hstep := Except.toOption_eq_some_iff.1 ha
  cases h with
  | complete houter hl => exact .stepConnective houter hl hstep
  | @within outer l phase ts us vs houter hl hphase =>
    cases hphase with
    | condition =>
      rw [List.append_nil]
      exact .stepCondition houter hl hstep
    | operator text ho => exact .stepOperator houter hl ho hstep
    | right c ho =>
      dsimp only [stepToken] at hstep
      split at hstep
      · next o' ho' =>
        obtain rfl := Except.ok.inj hstep
        exact .finishPredicate houter hl (.compare c ho ho')
      · cases hstep
    | afterIs ho =>
      dsimp only [stepToken] at hstep
      split at hstep
      · obtain rfl := Except.ok.inj hstep
        exact .goOn houter hl (.afterIsNot ho)
      · obtain rfl := Except.ok.inj hstep
        exact .finishPredicate houter hl (.isNull false ho)
      · cases hstep
    | afterIsNot ho =>
      dsimp only [stepToken] at hstep
      split at hstep
      · obtain rfl := Except.ok.inj hstep
        exact .finishPredicate houter hl (.isNull true ho)
      · cases hstep
    | afterNot ho =>
      dsimp only [stepToken] at hstep
      split at hstep
      · obtain rfl := Except.ok.inj hstep
        exact .goOn houter hl (.listOpen true ho)
      · obtain rfl := Except.ok.inj hstep
        exact .goOn houter hl (.pattern true ho)
      · cases hstep
    | listOpen negated ho =>
      dsimp only [stepToken] at hstep
      split at hstep
      · obtain rfl := Except.ok.inj hstep
        exact .goOn houter hl (by simpa using Phase.Begun.listFirst negated ho)
      · cases hstep
    | listFirst negated ho =>
      dsimp only [stepToken] at hstep
      split at hstep
      · obtain rfl := Except.ok.inj hstep
        exact .finishPredicate houter hl (by simpa using Predicate.memberOfNone negated ho)
      · obtain ⟨m, hm, rfl⟩ := exists_of_stepMember hstep
        exact .goOn houter hl (by simpa using Phase.Begun.listNext negated ho (.last hm))
    | listMember negated ho hmembers =>
      obtain ⟨m, hm, rfl⟩ := exists_of_stepMember hstep
      exact .goOn houter hl
        (by simpa using Phase.Begun.listNext negated ho (hmembers.append (.last hm)))
    | listNext negated ho hmembers =>
      dsimp only [stepToken] at hstep
      split at hstep
      · obtain rfl := Except.ok.inj hstep
        exact .goOn houter hl (by simpa using Phase.Begun.listMember negated ho hmembers)
      · obtain rfl := Except.ok.inj hstep
        exact .finishPredicate houter hl (by simpa using Predicate.member negated ho hmembers)
      · cases hstep
    | pattern negated ho =>
      dsimp only [stepToken] at hstep
      split at hstep
      · obtain rfl := Except.ok.inj hstep
        exact .finishPredicate houter hl (by simpa using Predicate.like _ negated ho)
      · cases hstep

theorem HasRead.acceptAll (h : r.HasRead ts) (ha : r.acceptAll us = some r') :
    r'.HasRead (ts ++ us) := by
  induction us generalizing r ts with
  | nil =>
    obtain rfl := Option.some.inj ha
    rwa [List.append_nil]
  | cons t us ih =>
    rw [acceptAll_cons] at ha
    obtain ⟨r₁, hr₁, ha⟩ := Option.bind_eq_some_iff.1 ha
    have := ih (h.accept hr₁) ha
    rwa [List.append_assoc] at this

/-- A reader at the end has read a phrase. -/
theorem HasRead.derives {e : Filter} (h : r.HasRead ts) (hfinish : r.finish = .ok e) :
    Derives ts e := by
  have hclose {outer : List Level} {l : Level} {phase : Phase} {ts us : List Token}
      (houter : Encloses outer ts) (hl : l.Holds us)
      (hclose : close ⟨outer, l, phase⟩ = .ok e) : Derives (ts ++ us) e := by
    cases houter with
    | nil =>
      obtain rfl := Except.ok.inj hclose
      exact hl.derives
    | cons _ _ => cases hclose
  cases h with
  | complete houter hl => exact hclose houter hl hfinish
  | within houter hl hphase =>
    cases hphase with
    | @operator t o text ho =>
      dsimp only [finish] at hfinish
      split at hfinish
      · next f hf =>
        have hp := predicate_of_condition? ho hf
        exact hclose houter (hl.add (.primary (.predicate hp))) hfinish
      · cases hfinish
    | _ => cases hfinish

end Reader

/-- The reader reads exactly what the grammar derives. -/
theorem readTokens_eq_some_iff {ts : List Token} {e : Filter} :
    readTokens ts = some e ↔ Derives ts e := by
  constructor
  · intro h
    obtain ⟨r, hr, hfinish⟩ := Option.bind_eq_some_iff.1 h
    have hread := Reader.hasRead_start.acceptAll hr
    exact hread.derives (Except.toOption_eq_some_iff.1 hfinish)
  · rintro ⟨clauses, h, rfl⟩
    exact readTokens_of_disjuncts h

end RowScope
