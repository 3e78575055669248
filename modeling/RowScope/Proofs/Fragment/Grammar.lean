/-
The grammar of fragments.

* `Operands`, `Predicate` — the phrases without connectives;
* `Disjuncts`, `Conjuncts`, `Negation`, `Primary` — the phrases with connectives, one for
  each level of binding;
* `ofClauses` — the condition of a list of disjuncts, each a list of conjuncts;
* `readTokens_of_disjuncts` — the reader reads what the grammar derives.

Design notes: the grammar is the one in the header of the reader.  A repetition is a list
here, so a phrase of several disjuncts gives one flat list, and so does one of several
conjuncts.
-/
import RowScope.Proofs.Fragment.Acceptor

namespace RowScope

/-- Operands with commas between them, at least one. -/
inductive Operands : List Token → List Operand → Prop
  | last {t : Token} {o : Operand} (h : t.operand? = some o) : Operands [t] [o]
  | more {t : Token} {o : Operand} {ts : List Token} {os : List Operand}
      (h : t.operand? = some o) (hrest : Operands ts os) : Operands (t :: .comma :: ts) (o :: os)

/-- The word `NOT` of a negated operator. -/
def notTokens (negated : Bool) : List Token :=
  if negated then [.keyword .not] else []

/-- A condition without connectives. -/
inductive Predicate : List Token → Filter → Prop
  | compare {t t' : Token} {o o' : Operand} (c : Comparison) (h : t.operand? = some o)
      (h' : t'.operand? = some o') : Predicate [t, .comparison c, t'] (comparisonFilter o c o')
  | memberOfNone {t : Token} {o : Operand} (negated : Bool) (h : t.operand? = some o) :
      Predicate (t :: (notTokens negated ++ [.keyword .member, .leftParen, .rightParen]))
        (.member o [] negated)
  | member {t : Token} {o : Operand} {ts : List Token} {os : List Operand} (negated : Bool)
      (h : t.operand? = some o) (hmembers : Operands ts os) :
      Predicate
        (t :: (notTokens negated ++ .keyword .member :: .leftParen :: (ts ++ [.rightParen])))
        (.member o os negated)
  | isNull {t : Token} {o : Operand} (negated : Bool) (h : t.operand? = some o) :
      Predicate (t :: .keyword .is :: (notTokens negated ++ [.keyword .null])) (.isNull o negated)
  | like {t : Token} {o : Operand} (pattern : String) (negated : Bool) (h : t.operand? = some o) :
      Predicate (t :: (notTokens negated ++ [.keyword .like, .text pattern]))
        (.like o pattern negated)
  | always : Predicate [.keyword .true] .always
  | never : Predicate [.keyword .false] .never

/-- The condition of a list of disjuncts, each a list of conjuncts. -/
def ofClauses (clauses : List (List Filter)) : Filter :=
  Level.merge .or (clauses.map (Level.merge .and))

mutual

/-- Conditions with `OR` between them, each given by its conjuncts. -/
inductive Disjuncts : List Token → List (List Filter) → Prop
  | last {ts : List Token} {fs : List Filter} (h : Conjuncts ts fs) : Disjuncts ts [fs]
  | more {ts us : List Token} {fs : List Filter} {clauses : List (List Filter)}
      (h : Conjuncts ts fs) (hrest : Disjuncts us clauses) :
      Disjuncts (ts ++ .keyword .or :: us) (fs :: clauses)

/-- Conditions with `AND` between them. -/
inductive Conjuncts : List Token → List Filter → Prop
  | last {ts : List Token} {f : Filter} (h : Negation ts f) : Conjuncts ts [f]
  | more {ts us : List Token} {f : Filter} {fs : List Filter} (h : Negation ts f)
      (hrest : Conjuncts us fs) : Conjuncts (ts ++ .keyword .and :: us) (f :: fs)

/-- A condition after any number of `NOT`. -/
inductive Negation : List Token → Filter → Prop
  | not {ts : List Token} {f : Filter} (h : Negation ts f) :
      Negation (.keyword .not :: ts) (.not f)
  | primary {ts : List Token} {f : Filter} (h : Primary ts f) : Negation ts f

/-- A condition in parentheses, or one without connectives. -/
inductive Primary : List Token → Filter → Prop
  | group {ts : List Token} {clauses : List (List Filter)} (h : Disjuncts ts clauses) :
      Primary (.leftParen :: (ts ++ [.rightParen])) (.group (ofClauses clauses))
  | predicate {ts : List Token} {f : Filter} (h : Predicate ts f) : Primary ts f

end

theorem Operands.append {ts us : List Token} {os ps : List Operand} (h : Operands ts os)
    (h' : Operands us ps) : Operands (ts ++ .comma :: us) (os ++ ps) := by
  induction h with
  | last h => exact .more h h'
  | more h _ ih => exact .more h ih

theorem Conjuncts.append {ts us : List Token} {fs gs : List Filter} (h : Conjuncts ts fs)
    (h' : Conjuncts us gs) : Conjuncts (ts ++ .keyword .and :: us) (fs ++ gs) := by
  cases h with
  | last h => exact .more h h'
  | more h hrest =>
    have := hrest.append h'
    rw [List.append_assoc]
    exact .more h this

theorem Disjuncts.append {ts us : List Token} {fss gss : List (List Filter)}
    (h : Disjuncts ts fss) (h' : Disjuncts us gss) :
    Disjuncts (ts ++ .keyword .or :: us) (fss ++ gss) := by
  cases h with
  | last h => exact .more h h'
  | more h hrest =>
    have := hrest.append h'
    rw [List.append_assoc]
    exact .more h this

namespace Reader

/-- The reader comes to be `r'` with some tokens, once it has settled. -/
def Reads (r : Reader) (ts : List Token) (r' : Reader) : Prop :=
  ∃ q, r.acceptAll ts = some q ∧ q.settled = r'

theorem Reads.step {r r₁ r₂ r₃ : Reader} {ts us : List Token} {t : Token} (h : r.Reads ts r₁)
    (ht : t = .keyword .and ∨ t = .keyword .or ∨ t = .rightParen) (ha : r₁.accept t = some r₂)
    (h' : r₂.Reads us r₃) : r.Reads (ts ++ t :: us) r₃ := by
  obtain ⟨q, hq, rfl⟩ := h
  obtain ⟨q', hq', rfl⟩ := h'
  rw [accept_settled ht] at ha
  refine ⟨q', ?_, rfl⟩
  rw [acceptAll_append, hq, Option.bind_some, acceptAll_cons, ha, Option.bind_some, hq']

theorem Reads.cons {r r₁ r₂ : Reader} {t : Token} {ts : List Token} (ha : r.accept t = some r₁)
    (h : r₁.Reads ts r₂) : r.Reads (t :: ts) r₂ := by
  obtain ⟨q, hq, rfl⟩ := h
  refine ⟨q, ?_, rfl⟩
  rw [acceptAll_cons, ha, Option.bind_some, hq]

theorem Reads.done {r : Reader} {ts : List Token} {outer : List Level} {level : Level}
    (h : r.acceptAll ts = some ⟨outer, level, .connective⟩) :
    r.Reads ts ⟨outer, level, .connective⟩ :=
  ⟨_, h, rfl⟩

variable {outer : List Level} {level : Level}

theorem accept_operand {t : Token} {o : Operand} (h : t.operand? = some o) :
    accept ⟨outer, level, .condition⟩ t = some ⟨outer, level, .operator o ""⟩ := by
  have hstep : stepCondition ⟨outer, level, .condition⟩ ⟨0, [], some t⟩ t
      = .ok ⟨outer, level, .operator o ""⟩ := by
    unfold stepCondition
    split
    · cases h
    · cases h
    · rw [h]
      rfl
  exact congrArg Except.toOption hstep

theorem acceptAll_of_operand {t : Token} {o : Operand} (h : t.operand? = some o)
    (ts : List Token) :
    acceptAll ⟨outer, level, .condition⟩ (t :: ts)
      = acceptAll ⟨outer, level, .operator o ""⟩ ts := by
  rw [acceptAll_cons, accept_operand h, Option.bind_some]

theorem accept_right {t : Token} {o o' : Operand} (h : t.operand? = some o') (c : Comparison) :
    accept ⟨outer, level, .right o c⟩ t
      = some ⟨outer, level.add (comparisonFilter o c o'), .connective⟩ := by
  unfold accept stepToken
  simp only [h]
  rfl

theorem accept_member {t : Token} {o m : Operand} (h : t.operand? = some m) (negated : Bool)
    (ms : List Operand) :
    accept ⟨outer, level, .listMember o negated ms⟩ t
      = some ⟨outer, level, .listNext o negated (ms ++ [m])⟩ := by
  have hstep : stepMember ⟨outer, level, .listMember o negated ms⟩ o negated ms t ⟨0, 0⟩
      = .ok ⟨outer, level, .listNext o negated (ms ++ [m])⟩ := by
    unfold stepMember
    rw [h]
    rfl
  exact congrArg Except.toOption hstep

theorem acceptAll_operands {ts : List Token} {os : List Operand} (h : Operands ts os)
    (o : Operand) (negated : Bool) (ms : List Operand) :
    acceptAll ⟨outer, level, .listMember o negated ms⟩ ts
      = some ⟨outer, level, .listNext o negated (ms ++ os)⟩ := by
  induction h generalizing ms with
  | last h => rw [acceptAll_cons, accept_member h, Option.bind_some, acceptAll_nil]
  | @more t m ts os h _ ih =>
    rw [acceptAll_cons, accept_member h, Option.bind_some, acceptAll_cons]
    show acceptAll ⟨outer, level, .listMember o negated (ms ++ [m])⟩ ts = _
    rw [ih, List.append_assoc]
    rfl

/-- The first member of a list is read as any other. -/
theorem acceptAll_first {ts : List Token} {os : List Operand} (h : Operands ts os)
    (o : Operand) (negated : Bool) :
    acceptAll ⟨outer, level, .listFirst o negated⟩ ts
      = acceptAll ⟨outer, level, .listMember o negated []⟩ ts := by
  have hfirst {t : Token} {m : Operand} (ht : t.operand? = some m) :
      accept ⟨outer, level, .listFirst o negated⟩ t
        = accept ⟨outer, level, .listMember o negated []⟩ t := by
    cases t with
    | rightParen => cases ht
    | _ => rfl
  cases h with
  | last h => rw [acceptAll_cons, hfirst h, ← acceptAll_cons]
  | more h _ => rw [acceptAll_cons, hfirst h, ← acceptAll_cons]

theorem reads_predicate {ts : List Token} {f : Filter} (h : Predicate ts f) :
    Reads ⟨outer, level, .condition⟩ ts ⟨outer, level.add f, .connective⟩ := by
  cases h with
  | compare c h h' =>
    refine .done ?_
    rw [acceptAll_of_operand h, acceptAll_cons]
    show acceptAll ⟨outer, level, .right _ c⟩ _ = _
    rw [acceptAll_cons, accept_right h', Option.bind_some, acceptAll_nil]
  | memberOfNone negated h =>
    refine .done ?_
    rw [acceptAll_of_operand h]
    cases negated <;> rfl
  | @member t o ts os negated h hmembers =>
    have hopen : acceptAll ⟨outer, level, .operator o ""⟩
        (notTokens negated ++ .keyword .member :: .leftParen :: (ts ++ [.rightParen]))
          = acceptAll ⟨outer, level, .listFirst o negated⟩ (ts ++ [.rightParen]) := by
      cases negated <;> rfl
    refine .done ?_
    rw [acceptAll_of_operand h, hopen, acceptAll_append, acceptAll_first hmembers,
      acceptAll_operands hmembers]
    rfl
  | isNull negated h =>
    refine .done ?_
    rw [acceptAll_of_operand h]
    cases negated <;> rfl
  | like pattern negated h =>
    refine .done ?_
    rw [acceptAll_of_operand h]
    cases negated <;> rfl
  -- here the reader still waits for an operator, and settles
  | always => exact ⟨_, rfl, rfl⟩
  | never => exact ⟨_, rfl, rfl⟩

theorem negated_not (n : Nat) (f : Filter) :
    Level.negated n (.not f) = Level.negated (n + 1) f := by
  induction n with
  | zero => rfl
  | succ n ih =>
    show Filter.not (Level.negated n (.not f)) = .not (Level.negated (n + 1) f)
    rw [ih]

mutual

/-- The reader comes to the disjuncts of a phrase, as it stands inside any level. -/
theorem reads_disjuncts {ts : List Token} {clauses : List (List Filter)} (outer : List Level)
    (before : List Filter) : Disjuncts ts clauses →
      ∃ level : Level, Reads ⟨outer, ⟨before, [], 0⟩, .condition⟩ ts ⟨outer, level, .connective⟩ ∧
        level.result = Level.merge .or (before ++ clauses.map (Level.merge .and))
  | .last h => ⟨_, reads_conjuncts outer before [] h, rfl⟩
  | @Disjuncts.more _ _ fs _ h hrest => by
    obtain ⟨level, hreads, hresult⟩ :=
      reads_disjuncts outer (before ++ [Level.merge .and fs]) hrest
    refine ⟨level, (reads_conjuncts outer before [] h).step (.inr (.inl rfl)) rfl hreads, ?_⟩
    rw [hresult, List.append_assoc]
    rfl

theorem reads_conjuncts {ts : List Token} {fs : List Filter} (outer : List Level)
    (disjuncts before : List Filter) : Conjuncts ts fs →
      Reads ⟨outer, ⟨disjuncts, before, 0⟩, .condition⟩ ts
        ⟨outer, ⟨disjuncts, before ++ fs, 0⟩, .connective⟩
  | .last h => reads_negation outer disjuncts before 0 h
  | @Conjuncts.more _ _ f fs h hrest => by
    have ih := reads_conjuncts outer disjuncts (before ++ [f]) hrest
    rw [List.append_assoc] at ih
    exact (reads_negation outer disjuncts before 0 h).step (.inl rfl) rfl ih

theorem reads_negation {ts : List Token} {f : Filter} (outer : List Level)
    (disjuncts before : List Filter) (n : Nat) : Negation ts f →
      Reads ⟨outer, ⟨disjuncts, before, n⟩, .condition⟩ ts
        ⟨outer, ⟨disjuncts, before ++ [Level.negated n f], 0⟩, .connective⟩
  | .not h => by
    -- the reader counts the negations, and puts them before the condition afterwards
    rw [negated_not]
    exact .cons rfl (reads_negation outer disjuncts before (n + 1) h)
  | .primary h => reads_primary outer ⟨disjuncts, before, n⟩ h

theorem reads_primary {ts : List Token} {f : Filter} (outer : List Level) (level : Level) :
    Primary ts f → Reads ⟨outer, level, .condition⟩ ts ⟨outer, level.add f, .connective⟩
  | .group h => by
    obtain ⟨inner, hreads, hresult⟩ := reads_disjuncts (level :: outer) [] h
    refine .cons rfl (hreads.step (.inr (.inr rfl)) ?_ (.done rfl))
    show some (complete ⟨outer, level, .connective⟩ (.group inner.result)) = _
    rw [hresult]
    rfl
  | .predicate h => reads_predicate h

end

end Reader

/-- The reader reads what the grammar derives. -/
theorem readTokens_of_disjuncts {ts : List Token} {clauses : List (List Filter)}
    (h : Disjuncts ts clauses) : readTokens ts = some (ofClauses clauses) := by
  obtain ⟨level, ⟨q, hq, hsettled⟩, hresult⟩ := Reader.reads_disjuncts [] [] h
  rw [readTokens]
  show (Reader.acceptAll ⟨[], ⟨[], [], 0⟩, .condition⟩ ts).bind _ = _
  rw [hq, Option.bind_some, ← Reader.finish_settled, hsettled]
  exact congrArg some hresult

/-- A text spells what the grammar derives from its tokens. -/
theorem Filter.parse_of_disjuncts {s : String} {ts : List Token} {clauses : List (List Filter)}
    (hs : Spells s.toList ts) (h : Disjuncts ts clauses) : parse s = .ok (ofClauses clauses) :=
  parse_eq_ok_iff.2 ⟨ts, hs.pieces_eq, readTokens_of_disjuncts h⟩

end RowScope
