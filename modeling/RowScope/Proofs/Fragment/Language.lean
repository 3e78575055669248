/-
The language of fragments.

    disjunction := conjunction (OR conjunction)*
    conjunction := negation (AND negation)*
    negation    := NOT negation | primary
    primary     := '(' disjunction ')' | test
    test        := side comparison side
                 | side [NOT] IN '(' [side (',' side)*] ')'
                 | side IS [NOT] NULL
                 | side [NOT] LIKE text
                 | TRUE | FALSE
    side        := name | integer | decimal | text | NULL | TRUE | FALSE

Each rule comes with the tree of what it derives, and nothing here is said by way of the
reader.

* `Language.Side`, `Language.Test`, `Language.Phrase` — the rules with their trees;
* `Language.readTokens_eq_some_iff_phrase` — the reader reads exactly the disjunctions;
* `Filter.parse_eq_ok_iff_phrase` — a text spells exactly what its tokens derive.

Design notes: `OR` and `AND` follow one rule, so the rank of a phrase carries its join.
Phrases are compared with the clauses that the reader keeps, where one condition stands for
itself and several stand in one list.
-/
import Mathlib.Data.Set.Subsingleton
import RowScope.Proofs.Fragment.Derivation

namespace RowScope

namespace Language

/-- A token that is a side of a condition. -/
inductive Side : Token → Operand → Prop
  | name (s : String) : Side (.name s) (.column s)
  | int (n : Int64) : Side (.int n) (.literal (.int n))
  | float (x : Float) : Side (.float x) (.literal (.float x))
  | text (s : String) : Side (.text s) (.literal (.text s))
  | null : Side (.keyword .null) (.literal .null)
  | true : Side (.keyword .true) (.literal (.bool true))
  | false : Side (.keyword .false) (.literal (.bool false))

/-- Sides with commas between them, at least one. -/
inductive Sides : List Token → List Operand → Prop
  | last {t : Token} {o : Operand} (h : Side t o) : Sides [t] [o]
  | more {t : Token} {o : Operand} {ts : List Token} {os : List Operand} (h : Side t o)
      (hrest : Sides ts os) : Sides (t :: .comma :: ts) (o :: os)

/-- What stands between the parentheses of a list. -/
inductive Members : List Token → List Operand → Prop
  | none : Members [] []
  | some {ts : List Token} {os : List Operand} (h : Sides ts os) : Members ts os

/-- A condition without connectives.  `1 = 1` and `1 = 0` are no comparisons. -/
inductive Test : List Token → Filter → Prop
  | oneEqOne : Test [.int 1, .comparison .eq, .int 1] .always
  | oneEqZero : Test [.int 1, .comparison .eq, .int 0] .never
  | compare {t t' : Token} {l r : Operand} (c : Comparison) (hl : Side t l) (hr : Side t' r)
      (hone : [t, .comparison c, t'] ≠ [.int 1, .comparison .eq, .int 1])
      (hzero : [t, .comparison c, t'] ≠ [.int 1, .comparison .eq, .int 0]) :
      Test [t, .comparison c, t'] (.compare l c r)
  | member {t : Token} {o : Operand} {ts : List Token} {os : List Operand} (h : Side t o)
      (hmembers : Members ts os) :
      Test (t :: .keyword .member :: .leftParen :: (ts ++ [.rightParen])) (.member o os false)
  | notMember {t : Token} {o : Operand} {ts : List Token} {os : List Operand} (h : Side t o)
      (hmembers : Members ts os) :
      Test (t :: .keyword .not :: .keyword .member :: .leftParen :: (ts ++ [.rightParen]))
        (.member o os true)
  | isNull {t : Token} {o : Operand} (h : Side t o) :
      Test [t, .keyword .is, .keyword .null] (.isNull o false)
  | isNotNull {t : Token} {o : Operand} (h : Side t o) :
      Test [t, .keyword .is, .keyword .not, .keyword .null] (.isNull o true)
  | like {t : Token} {o : Operand} (pattern : String) (h : Side t o) :
      Test [t, .keyword .like, .text pattern] (.like o pattern false)
  | notLike {t : Token} {o : Operand} (pattern : String) (h : Side t o) :
      Test [t, .keyword .not, .keyword .like, .text pattern] (.like o pattern true)
  | true : Test [.keyword .true] .always
  | false : Test [.keyword .false] .never

/-- How tightly the parts of a phrase hang together. -/
inductive Rank where
  | joined (j : Join)
  | negation
  | primary

/-- The rank of the parts that are joined. -/
def part : Join → Rank
  | .or => .joined .and
  | .and => .negation

/-- The word between the parts that are joined. -/
def word : Join → Token
  | .or => .keyword .or
  | .and => .keyword .and

mutual

/-- A condition of some rank. -/
inductive Phrase : Rank → List Token → Filter → Prop
  | one {j : Join} {ts : List Token} {f : Filter} (h : Phrase (part j) ts f) :
      Phrase (.joined j) ts f
  | several {j : Join} {ts : List Token} {f g : Filter} {fs : List Filter}
      (h : Phrases j ts (f :: g :: fs)) : Phrase (.joined j) ts (.joined j (f :: g :: fs))
  | not {ts : List Token} {f : Filter} (h : Phrase .negation ts f) :
      Phrase .negation (.keyword .not :: ts) (.not f)
  | primary {ts : List Token} {f : Filter} (h : Phrase .primary ts f) : Phrase .negation ts f
  | group {ts : List Token} {f : Filter} (h : Phrase (.joined .or) ts f) :
      Phrase .primary (.leftParen :: (ts ++ [.rightParen])) (.group f)
  | test {ts : List Token} {f : Filter} (h : Test ts f) : Phrase .primary ts f

/-- The parts of a join with its word between them. -/
inductive Phrases : Join → List Token → List Filter → Prop
  | last {j : Join} {ts : List Token} {f : Filter} (h : Phrase (part j) ts f) : Phrases j ts [f]
  | more {j : Join} {ts us : List Token} {f : Filter} {fs : List Filter}
      (h : Phrase (part j) ts f) (hrest : Phrases j us fs) :
      Phrases j (ts ++ word j :: us) (f :: fs)

end

/-! ### Tests -/

theorem side_iff {t : Token} {o : Operand} : Side t o ↔ t.operand? = some o := by
  constructor
  · rintro ⟨⟩
    all_goals rfl
  · intro h
    cases t with
    | keyword k =>
      cases k with
      | null => exact Option.some.inj h ▸ .null
      | true => exact Option.some.inj h ▸ .true
      | false => exact Option.some.inj h ▸ .false
      | _ => cases h
    | name s => exact Option.some.inj h ▸ .name s
    | int n => exact Option.some.inj h ▸ .int n
    | float x => exact Option.some.inj h ▸ .float x
    | text s => exact Option.some.inj h ▸ .text s
    | _ => cases h

theorem sides_iff {ts : List Token} {os : List Operand} : Sides ts os ↔ Operands ts os := by
  constructor
  · intro h
    induction h with
    | last h => exact .last (side_iff.1 h)
    | more h _ ih => exact .more (side_iff.1 h) ih
  · intro h
    induction h with
    | last h => exact .last (side_iff.2 h)
    | more h _ ih => exact .more (side_iff.2 h) ih

theorem eq_int_of_operand? {t : Token} {n : Int64} (h : t.operand? = some (.literal (.int n))) :
    t = .int n := by
  cases side_iff.2 h
  rfl

/-- A comparison stands for itself, but for `1 = 1` and `1 = 0`. -/
theorem comparisonFilter_cases (l r : Operand) (c : Comparison) :
    (l = .literal (.int 1) ∧ c = .eq ∧ r = .literal (.int 1)
      ∧ comparisonFilter l c r = .always) ∨
    (l = .literal (.int 1) ∧ c = .eq ∧ r = .literal (.int 0)
      ∧ comparisonFilter l c r = .never) ∨
    comparisonFilter l c r = .compare l c r := by
  unfold comparisonFilter
  split
  · exact .inl ⟨rfl, rfl, rfl, rfl⟩
  · exact .inr (.inl ⟨rfl, rfl, rfl, rfl⟩)
  · exact .inr (.inr rfl)

theorem test_compare {t t' : Token} {l r : Operand} (c : Comparison) (hl : t.operand? = some l)
    (hr : t'.operand? = some r) : Test [t, .comparison c, t'] (comparisonFilter l c r) := by
  rcases comparisonFilter_cases l r c with
    ⟨rfl, rfl, rfl, h⟩ | ⟨rfl, rfl, rfl, h⟩ | h
  · rw [h, eq_int_of_operand? hl, eq_int_of_operand? hr]
    exact .oneEqOne
  · rw [h, eq_int_of_operand? hl, eq_int_of_operand? hr]
    exact .oneEqZero
  · rw [h]
    refine .compare c (side_iff.2 hl) (side_iff.2 hr) ?_ ?_
    all_goals
      rintro ⟨⟩
      obtain rfl := Option.some.inj hl
      obtain rfl := Option.some.inj hr
      cases h

theorem test_of_predicate {ts : List Token} {f : Filter} (h : Predicate ts f) : Test ts f := by
  cases h with
  | compare c hl hr => exact test_compare c hl hr
  | memberOfNone negated h =>
    cases negated with
    | false => exact .member (side_iff.2 h) .none
    | true => exact .notMember (side_iff.2 h) .none
  | member negated h hmembers =>
    cases negated with
    | false => exact .member (side_iff.2 h) (.some (sides_iff.2 hmembers))
    | true => exact .notMember (side_iff.2 h) (.some (sides_iff.2 hmembers))
  | isNull negated h =>
    cases negated with
    | false => exact .isNull (side_iff.2 h)
    | true => exact .isNotNull (side_iff.2 h)
  | like pattern negated h =>
    cases negated with
    | false => exact .like pattern (side_iff.2 h)
    | true => exact .notLike pattern (side_iff.2 h)
  | always => exact .true
  | never => exact .false

theorem predicate_of_test {ts : List Token} {f : Filter} (h : Test ts f) : Predicate ts f := by
  cases h with
  | oneEqOne => exact .compare .eq (side_iff.1 (.int 1)) (side_iff.1 (.int 1))
  | oneEqZero => exact .compare .eq (side_iff.1 (.int 1)) (side_iff.1 (.int 0))
  | @compare t t' l r c hl hr hone hzero =>
    have hp := Predicate.compare c (side_iff.1 hl) (side_iff.1 hr)
    rcases comparisonFilter_cases l r c with
      ⟨rfl, rfl, rfl, -⟩ | ⟨rfl, rfl, rfl, -⟩ | h
    · cases hl
      cases hr
      exact absurd rfl hone
    · cases hl
      cases hr
      exact absurd rfl hzero
    · rwa [h] at hp
  | member h hmembers =>
    cases hmembers with
    | none => exact .memberOfNone false (side_iff.1 h)
    | some hs => exact .member false (side_iff.1 h) (sides_iff.1 hs)
  | notMember h hmembers =>
    cases hmembers with
    | none => exact .memberOfNone true (side_iff.1 h)
    | some hs => exact .member true (side_iff.1 h) (sides_iff.1 hs)
  | isNull h => exact .isNull false (side_iff.1 h)
  | isNotNull h => exact .isNull true (side_iff.1 h)
  | like pattern h => exact .like pattern false (side_iff.1 h)
  | notLike pattern h => exact .like pattern true (side_iff.1 h)
  | true => exact .always
  | false => exact .never

/-! ### Connectives -/

/-- A phrase by the clauses that the reader keeps. -/
def Rank.Derives : Rank → List Token → Filter → Prop
  | .joined .or, ts, f => RowScope.Derives ts f
  | .joined .and, ts, f => ∃ fs, Conjuncts ts fs ∧ Level.merge .and fs = f
  | .negation, ts, f => Negation ts f
  | .primary, ts, f => Primary ts f

/-- The parts of a join by the clauses that the reader keeps. -/
def Clauses : Join → List Token → List Filter → Prop
  | .or, ts, fs => ∃ clauses, Disjuncts ts clauses ∧ clauses.map (Level.merge .and) = fs
  | .and, ts, fs => Conjuncts ts fs

theorem Clauses.derives {j : Join} {ts : List Token} {fs : List Filter} (h : Clauses j ts fs) :
    (Rank.joined j).Derives ts (Level.merge j fs) := by
  cases j with
  | and => exact ⟨fs, h, rfl⟩
  | or =>
    obtain ⟨clauses, h, rfl⟩ := h
    exact ⟨clauses, h, rfl⟩

theorem Clauses.last {j : Join} {ts : List Token} {f : Filter} (h : (part j).Derives ts f) :
    Clauses j ts [f] := by
  cases j with
  | and => exact Conjuncts.last h
  | or =>
    obtain ⟨fs, h, rfl⟩ := h
    exact ⟨[fs], .last h, rfl⟩

theorem Clauses.more {j : Join} {ts us : List Token} {f : Filter} {fs : List Filter}
    (h : (part j).Derives ts f) (hrest : Clauses j us fs) :
    Clauses j (ts ++ word j :: us) (f :: fs) := by
  cases j with
  | and => exact Conjuncts.more h hrest
  | or =>
    obtain ⟨gs, h, rfl⟩ := h
    obtain ⟨clauses, hrest, rfl⟩ := hrest
    exact ⟨gs :: clauses, .more h hrest, rfl⟩

mutual

theorem derives_of_phrase {rank : Rank} {ts : List Token} {f : Filter} :
    Phrase rank ts f → rank.Derives ts f
  | .one h => (Clauses.last (derives_of_phrase h)).derives
  | .several h => (clauses_of_phrases h).derives
  | .not h => .not (derives_of_phrase h)
  | .primary h => .primary (derives_of_phrase h)
  | .group h => by
    obtain ⟨clauses, hclauses, rfl⟩ := derives_of_phrase h
    exact .group hclauses
  | .test h => .predicate (predicate_of_test h)

theorem clauses_of_phrases {j : Join} {ts : List Token} {fs : List Filter} :
    Phrases j ts fs → Clauses j ts fs
  | .last h => .last (derives_of_phrase h)
  | .more h hrest => .more (derives_of_phrase h) (clauses_of_phrases hrest)

end

/-- One part stands for itself, several are joined. -/
theorem Phrases.phrase {j : Join} {ts : List Token} {fs : List Filter} (h : Phrases j ts fs) :
    Phrase (.joined j) ts (Level.merge j fs) := by
  cases h with
  | last h => exact .one h
  | more h hrest =>
    cases hrest with
    | last h' => exact .several (.more h (.last h'))
    | more h' hrest => exact .several (.more h (.more h' hrest))

mutual

theorem phrases_of_disjuncts {ts : List Token} {clauses : List (List Filter)} :
    Disjuncts ts clauses → Phrases .or ts (clauses.map (Level.merge .and))
  | .last h => .last (phrases_of_conjuncts h).phrase
  | .more h hrest => .more (phrases_of_conjuncts h).phrase (phrases_of_disjuncts hrest)

theorem phrases_of_conjuncts {ts : List Token} {fs : List Filter} :
    Conjuncts ts fs → Phrases .and ts fs
  | .last h => .last (phrase_of_negation h)
  | .more h hrest => .more (phrase_of_negation h) (phrases_of_conjuncts hrest)

theorem phrase_of_negation {ts : List Token} {f : Filter} :
    Negation ts f → Phrase .negation ts f
  | .not h => .not (phrase_of_negation h)
  | .primary h => .primary (phrase_of_primary h)

theorem phrase_of_primary {ts : List Token} {f : Filter} :
    Primary ts f → Phrase .primary ts f
  | .group h => .group (phrases_of_disjuncts h).phrase
  | .predicate h => .test (test_of_predicate h)

end

theorem derives_iff_phrase {ts : List Token} {f : Filter} :
    Derives ts f ↔ Phrase (.joined .or) ts f := by
  constructor
  · rintro ⟨clauses, h, rfl⟩
    exact (phrases_of_disjuncts h).phrase
  · exact derives_of_phrase

/-- The reader reads exactly the disjunctions. -/
theorem readTokens_eq_some_iff_phrase {ts : List Token} {f : Filter} :
    readTokens ts = some f ↔ Phrase (.joined .or) ts f :=
  readTokens_eq_some_iff.trans derives_iff_phrase

end Language

/-! ### Texts -/

theorem Lexeme.placed_eq_ok_iff {source : List Char} {l : Lexeme} {p : PlacedToken} :
    l.placed source = .ok p ↔ l.token? = some p.token ∧ l.span = p.span := by
  unfold placed
  split
  · next t ht =>
    rw [ht, Option.some.injEq, Except.ok.injEq]
    constructor
    · rintro rfl
      exact ⟨rfl, rfl⟩
    · rintro ⟨rfl, hspan⟩
      rw [hspan]
  · next ht => simp [ht]

/-- The tokens of a text, without their places. -/
theorem exists_tokens?_iff {s : String} {ts : List Token} :
    (∃ placed, tokens? s = .ok placed ∧ placed.map PlacedToken.token = ts)
      ↔ pieces s.toList = ts.map some := by
  unfold tokens? pieces
  simp only [mapM_eq_ok_iff, Lexeme.placed_eq_ok_iff]
  generalize Lexeme.all s.toList = ls
  constructor
  · rintro ⟨placed, h, rfl⟩
    induction h with
    | nil => rfl
    | cons hl _ ih =>
      rw [List.map_cons, hl.1, ih]
      rfl
  · intro h
    induction ls generalizing ts with
    | nil =>
      obtain rfl := List.map_eq_nil_iff.1 h.symm
      exact ⟨[], .nil, rfl⟩
    | cons l ls ih =>
      obtain ⟨t, ts, rfl, ht, hts⟩ := List.map_eq_cons_iff.1 h.symm
      obtain ⟨placed, hplaced, rfl⟩ := ih hts.symm
      exact ⟨⟨t, l.span⟩ :: placed, .cons ⟨ht.symm, rfl⟩ hplaced, rfl⟩

namespace Filter

/-- **The reader accepts exactly the language**: a text spells a condition if all of it is cut
into tokens from which the condition is derived.  A sequence of tokens derives one condition
at most. -/
theorem parse_eq_ok_iff_phrase (s : String) (e : Filter) :
    (parse s = .ok e ↔ ∃ placed, tokens? s = .ok placed
      ∧ Language.Phrase (.joined .or) (placed.map PlacedToken.token) e) ∧
      ∀ ts, {f | Language.Phrase (.joined .or) ts f}.Subsingleton := by
  constructor
  · rw [parse_eq_ok_iff]
    constructor
    · rintro ⟨ts, hts, he⟩
      obtain ⟨placed, hplaced, rfl⟩ := exists_tokens?_iff.2 hts
      exact ⟨placed, hplaced, Language.readTokens_eq_some_iff_phrase.1 he⟩
    · rintro ⟨placed, hplaced, he⟩
      refine ⟨_, exists_tokens?_iff.1 ⟨placed, hplaced, rfl⟩, ?_⟩
      exact Language.readTokens_eq_some_iff_phrase.2 he
  · intro ts f hf g hg
    have hf := Language.readTokens_eq_some_iff_phrase.2 hf
    have hg := Language.readTokens_eq_some_iff_phrase.2 hg
    exact Option.some.inj (hf.symm.trans hg)

end Filter

end RowScope
