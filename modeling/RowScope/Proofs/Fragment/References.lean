/-
The columns of a condition and the names of its text.

* `Filter.columns`, `namesIn` — the columns that a condition refers to, and the names that a
  text has among its tokens;
* `Language.columns_of_phrase` — a condition that is derived from tokens refers to the names
  among them, in their order;
* `Filter.columns_of_parse` — a condition that a text spells refers to the names of the text.
-/
import RowScope.Proofs.Filter.Canonical

namespace RowScope

/-- The column that an operand refers to, if it is one. -/
def Operand.column? : Operand → Option String
  | column name => some name
  | literal _ => none

/-- The name that a token is, if it is one. -/
def Token.name? : Token → Option String
  | name s => some s
  | _ => none

/-- The columns that a condition refers to, in their order and with repetitions. -/
def Filter.columns (f : Filter) : List String :=
  f.operands.filterMap Operand.column?

/-- The names among the tokens of a text. -/
def namesIn (cs : List Char) : List String :=
  (pieces cs).filterMap fun piece => piece.bind Token.name?

theorem mem_namesIn {s : String} {cs : List Char} :
    s ∈ namesIn cs ↔ some (.name s) ∈ pieces cs := by
  rw [namesIn, List.mem_filterMap]
  constructor
  · rintro ⟨piece, hpiece, hname⟩
    obtain ⟨t, rfl, ht⟩ := Option.bind_eq_some_iff.1 hname
    cases t with
    | name s' =>
      obtain rfl := Option.some.inj ht
      exact hpiece
    | _ => cases ht
  · exact fun h => ⟨_, h, rfl⟩

namespace Filter

theorem operands_joined (j : Join) (fs : List Filter) :
    (joined j fs).operands = fs.flatMap operands := by
  rw [operands, leaves_joined]
  induction fs with
  | nil => rfl
  | cons f fs ih => rw [leavesAll, List.flatMap_append, ih, List.flatMap_cons, operands]

theorem columns_joined (j : Join) (fs : List Filter) :
    (joined j fs).columns = fs.flatMap columns := by
  rw [columns, operands_joined, List.filterMap_flatMap]
  rfl

theorem columns_of_leaf {f : Filter} (h : f.leaves = [f]) :
    f.columns = f.leafOperands.filterMap Operand.column? := by
  rw [columns, operands, h, List.flatMap_singleton]

end Filter

namespace Language

variable {t : Token} {ts : List Token} {o : Operand} {os : List Operand} {f : Filter}

theorem column?_of_side (h : Side t o) : o.column? = t.name? := by
  cases h with
  | _ => rfl

theorem columns_cons (h : Side t o)
    (hrest : os.filterMap Operand.column? = ts.filterMap Token.name?) :
    (o :: os).filterMap Operand.column? = (t :: ts).filterMap Token.name? := by
  rw [List.filterMap_cons, List.filterMap_cons, column?_of_side h, hrest]

theorem names_rightParen (ts : List Token) :
    (ts ++ [Token.rightParen]).filterMap Token.name? = ts.filterMap Token.name? := by
  rw [List.filterMap_append]
  exact List.append_nil _

theorem columns_of_sides (h : Sides ts os) :
    os.filterMap Operand.column? = ts.filterMap Token.name? := by
  induction h with
  | last h => exact columns_cons h rfl
  | more h _ ih => exact columns_cons h ih

theorem columns_of_members (h : Members ts os) :
    os.filterMap Operand.column? = (ts ++ [Token.rightParen]).filterMap Token.name? := by
  rw [names_rightParen]
  cases h with
  | none => rfl
  | some h => exact columns_of_sides h

/-- The tokens between the sides of a test are no names. -/
theorem columns_of_test (h : Test ts f) : f.columns = ts.filterMap Token.name? := by
  cases h with
  | oneEqOne => rfl
  | oneEqZero => rfl
  | @compare t t' l r c hl hr =>
    have hright : [r].filterMap Operand.column? = [t'].filterMap Token.name? :=
      columns_cons hr rfl
    exact columns_cons hl hright
  | member h hmembers =>
    rw [Filter.columns_of_leaf rfl]
    exact columns_cons h (columns_of_members hmembers)
  | notMember h hmembers =>
    rw [Filter.columns_of_leaf rfl]
    exact columns_cons h (columns_of_members hmembers)
  | isNull h => exact columns_cons h rfl
  | isNotNull h => exact columns_cons h rfl
  | like pattern h => exact columns_cons h rfl
  | notLike pattern h => exact columns_cons h rfl
  | true => rfl
  | false => rfl

mutual

/-- A condition that is derived from tokens refers to the names among them. -/
theorem columns_of_phrase {rank : Rank} {ts : List Token} {f : Filter} :
    Phrase rank ts f → f.columns = ts.filterMap Token.name?
  | .one h => columns_of_phrase h
  | .several h => by rw [Filter.columns_joined, columns_of_phrases h]
  | .not h => by
    have ih := columns_of_phrase h
    exact ih
  | .primary h => columns_of_phrase h
  | .group h => by
    rw [List.filterMap_cons_none rfl, names_rightParen, ← columns_of_phrase h]
    rfl
  | .test h => columns_of_test h

theorem columns_of_phrases {j : Join} {ts : List Token} {fs : List Filter} :
    Phrases j ts fs → fs.flatMap Filter.columns = ts.filterMap Token.name?
  | .last h => by rw [List.flatMap_singleton, columns_of_phrase h]
  | .more h hrest => by
    have hword : (word j).name? = none := by cases j <;> rfl
    rw [List.flatMap_cons, columns_of_phrase h, columns_of_phrases hrest, List.filterMap_append,
      List.filterMap_cons_none hword]

end

end Language

/-- A text that spells a condition has tokens only. -/
theorem Filter.none_notMem_of_parse {s : String} {f : Filter} (h : parse s = .ok f) :
    none ∉ pieces s.toList := by
  obtain ⟨ts, hts, -⟩ := Filter.parse_eq_ok_iff.1 h
  rw [hts]
  simp

/-- A condition that a text spells refers to the names of the text, in their order. -/
theorem Filter.columns_of_parse {s : String} {f : Filter} (h : parse s = .ok f) :
    f.columns = namesIn s.toList := by
  obtain ⟨ts, hts, hf⟩ := Filter.parse_eq_ok_iff.1 h
  rw [namesIn, hts, List.filterMap_map,
    Language.columns_of_phrase (Language.readTokens_eq_some_iff_phrase.1 hf)]
  rfl

end RowScope
