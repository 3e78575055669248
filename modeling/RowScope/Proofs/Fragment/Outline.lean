/-
What is left of a fragment without its quoted texts.

The outline of a condition has its connectives, operators, columns and numbers, and the lengths
of its lists, but not the texts that its columns are compared and matched with.

* `Filter.outline`, `Token.outline` — a condition and a token with no text;
* `Language.phrase_outline` — the outlines of tokens derive the outline of a condition;
* `Language.outline_eq_of_readTokens` — tokens of one outline spell conditions of one outline.
-/
import RowScope.Proofs.Fragment.Language

namespace RowScope

/-- A token with an empty text for its text. -/
def Token.outline : Token → Token
  | text _ => text ""
  | t => t

/-- A side of a condition with an empty text for its text. -/
def Operand.outline : Operand → Operand
  | literal (.text _) => literal (.text "")
  | o => o

namespace Filter

mutual

/-- A condition with empty texts for its texts and patterns. -/
def outline : Filter → Filter
  | compare l c r => compare l.outline c r.outline
  | member o vs negated => member o.outline (vs.map Operand.outline) negated
  | isNull o negated => isNull o.outline negated
  | like o _ negated => like o.outline "" negated
  | and fs => and (outlines fs)
  | or fs => or (outlines fs)
  | not f => not (outline f)
  | group f => group (outline f)
  | always => always
  | never => never

/-- Some conditions with empty texts for their texts and patterns. -/
def outlines : List Filter → List Filter
  | [] => []
  | f :: fs => outline f :: outlines fs

end

theorem outline_joined (j : Join) (fs : List Filter) :
    (joined j fs).outline = joined j (outlines fs) := by
  cases j
  · rfl
  · rfl

end Filter

namespace Language

theorem side_outline {t : Token} {o : Operand} (h : Side t o) : Side t.outline o.outline := by
  cases h with
  | text s => exact .text ""
  | name s => exact .name s
  | int n => exact .int n
  | float x => exact .float x
  | null => exact .null
  | true => exact .true
  | false => exact .false

theorem sides_outline {ts : List Token} {os : List Operand} (h : Sides ts os) :
    Sides (ts.map Token.outline) (os.map Operand.outline) := by
  induction h with
  | last h => exact .last (side_outline h)
  | more h _ ih => exact .more (side_outline h) ih

theorem members_outline {ts : List Token} {os : List Operand} (h : Members ts os) :
    Members (ts.map Token.outline) (os.map Operand.outline) := by
  cases h with
  | none => exact .none
  | some h => exact .some (sides_outline h)

theorem eq_int_of_outline {t : Token} {n : Int64} (h : t.outline = .int n) : t = .int n := by
  cases t with
  | text s => cases h
  | _ => exact h

theorem test_outline {ts : List Token} {f : Filter} (h : Test ts f) :
    Test (ts.map Token.outline) f.outline := by
  cases h with
  | oneEqOne => exact .oneEqOne
  | oneEqZero => exact .oneEqZero
  | compare c hl hr hone hzero =>
    refine .compare c (side_outline hl) (side_outline hr) (fun h => hone ?_) (fun h => hzero ?_)
    all_goals
      simp only [List.cons.injEq, Token.comparison.injEq, and_true] at h
      rw [eq_int_of_outline h.1, eq_int_of_outline h.2.2, h.2.1]
  | member h hmembers =>
    rw [List.map_cons, List.map_cons, List.map_cons, List.map_append]
    exact .member (side_outline h) (members_outline hmembers)
  | notMember h hmembers =>
    rw [List.map_cons, List.map_cons, List.map_cons, List.map_cons, List.map_append]
    exact .notMember (side_outline h) (members_outline hmembers)
  | isNull h => exact .isNull (side_outline h)
  | isNotNull h => exact .isNotNull (side_outline h)
  | like pattern h => exact .like "" (side_outline h)
  | notLike pattern h => exact .notLike "" (side_outline h)
  | true => exact .true
  | false => exact .false

mutual

/-- The outlines of tokens derive the outline of what the tokens derive. -/
theorem phrase_outline {rank : Rank} {ts : List Token} {f : Filter} :
    Phrase rank ts f → Phrase rank (ts.map Token.outline) f.outline
  | .one h => .one (phrase_outline h)
  | .several h => by
    rw [Filter.outline_joined]
    exact .several (phrases_outline h)
  | .not h => .not (phrase_outline h)
  | .primary h => .primary (phrase_outline h)
  | .group h => by
    rw [List.map_cons, List.map_append]
    exact .group (phrase_outline h)
  | .test h => .test (test_outline h)

theorem phrases_outline {j : Join} {ts : List Token} {fs : List Filter} :
    Phrases j ts fs → Phrases j (ts.map Token.outline) (Filter.outlines fs)
  | .last h => .last (phrase_outline h)
  | .more h hrest => by
    have hword : (word j).outline = word j := by cases j <;> rfl
    rw [List.map_append, List.map_cons, hword]
    exact .more (phrase_outline h) (phrases_outline hrest)

end

/-- Tokens of one outline spell conditions of one outline. -/
theorem outline_eq_of_readTokens {ts us : List Token} {f g : Filter}
    (h : ts.map Token.outline = us.map Token.outline) (hf : readTokens ts = some f)
    (hg : readTokens us = some g) : f.outline = g.outline := by
  have hf := readTokens_eq_some_iff_phrase.2 (phrase_outline (readTokens_eq_some_iff_phrase.1 hf))
  have hg := readTokens_eq_some_iff_phrase.2 (phrase_outline (readTokens_eq_some_iff_phrase.1 hg))
  rw [h] at hf
  exact Option.some.inj (hf.symm.trans hg)

end Language

end RowScope
