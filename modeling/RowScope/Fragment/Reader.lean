/-
Reading a condition from a fragment.

    disjunction := conjunction (OR conjunction)*
    conjunction := negation (AND negation)*
    negation    := NOT negation | primary
    primary     := '(' disjunction ')' | predicate
    predicate   := operand comparison operand
                 | operand [NOT] IN '(' [operand (',' operand)*] ')'
                 | operand IS [NOT] NULL
                 | operand [NOT] LIKE text
                 | TRUE | FALSE
    operand     := name | integer | decimal | text | NULL | TRUE | FALSE

Joined conditions make one list, parentheses make a group, and `1 = 1` and
`1 = 0` are read as the conditions that always and never hold.

* `Reader.step` — the reader after one more lexeme;
* `Reader.finish` — the condition that was read, at the end of the fragment;
* `Filter.parse` — the condition that a source text spells.

Design notes: the reader is a pushdown machine.  `Reader.phase` says what the next
token may be, `Reader.level` holds the conditions read since the last open
parenthesis, and `Reader.outer` those of the levels around it.  A step never looks
ahead, so a run over a sequence of lexemes is the runs over its parts, one after
the other, and an error is always at the lexeme that no fragment could have there.
-/
import RowScope.Fragment.Lexeme

namespace RowScope

/-- What is wrong with a fragment. -/
inductive SyntaxError where
  -- A piece that is no token.
  | noToken (l : Lexeme)
  -- The fragment ends where more is needed.
  | ends (expected : String)
  -- A token follows a complete condition.
  | afterCondition (t : Token) (span : Span)
  -- A token stands where an operand is needed.
  | noOperand (t : Token) (span : Span)
  -- A token stands where an operator on the operand `left` is needed.
  | noOperator (left : String) (t : Token) (span : Span)
  -- A token stands where `IS` needs a null.
  | noNull (t : Token) (span : Span)
  -- A token stands where a negated operator is needed.
  | noNegatedOperator (t : Token) (span : Span)
  -- A token stands where a pattern is needed.
  | noPattern (t : Token) (span : Span)
  -- A token stands where the token `expected` is needed.
  | notExpected (expected : Token) (t : Token) (span : Span)

namespace SyntaxError

/-- The finding about a source text. -/
def diagnostic (source : List Char) : SyntaxError → Diagnostic
  | noToken l => ⟨"unexpected input '" ++ String.ofList l.text ++ "'", l.span, none⟩
  | ends expected => .unexpectedEnd source expected
  | afterCondition t span =>
    ⟨"unexpected " ++ t.describe ++ " after complete condition", span,
      some "join conditions with AND or OR"⟩
  | noOperand t span => ⟨"expected column or literal, found " ++ t.describe, span, none⟩
  | noOperator left t span =>
    ⟨"expected comparison operator, found " ++ t.describe, span,
      some ("a condition on '" ++ left ++ "' needs an operator such as '=' or IN")⟩
  | noNull t span => ⟨"expected 'NULL' after 'IS', found " ++ t.describe, span, none⟩
  | noNegatedOperator t span =>
    ⟨"expected 'IN' or 'LIKE' after 'NOT', found " ++ t.describe, span, none⟩
  | noPattern t span =>
    ⟨"expected string literal, found " ++ t.describe, span,
      some "LIKE patterns are single-quoted"⟩
  | notExpected expected t span =>
    ⟨"expected " ++ expected.describe ++ ", found " ++ t.describe, span, none⟩

end SyntaxError

/-- What the next token may be. -/
inductive Phase where
  -- A condition starts here.
  | condition
  -- An operator on an operand, which the source spells `text`.
  | operator (left : Operand) (text : String)
  -- The right side of a comparison.
  | right (left : Operand) (c : Comparison)
  -- What follows `IS`: a null, or its negation.
  | afterIs (left : Operand)
  -- What follows `IS NOT`: a null.
  | afterIsNot (left : Operand)
  -- What follows `NOT` after an operand.
  | afterNot (left : Operand)
  -- The parenthesis that opens a list.
  | listOpen (left : Operand) (negated : Bool)
  -- The first member of a list, or its end.
  | listFirst (left : Operand) (negated : Bool)
  -- A further member of a list.
  | listMember (left : Operand) (negated : Bool) (members : List Operand)
  -- A comma, or the end of a list.
  | listNext (left : Operand) (negated : Bool) (members : List Operand)
  -- A pattern.
  | pattern (left : Operand) (negated : Bool)
  -- A connective after a complete condition.
  | connective

/-- The conditions between two parentheses: the complete members of the
disjunction, those of its last member, and the negations before the condition that
comes next. -/
structure Level where
  disjuncts : List Filter
  conjuncts : List Filter
  negations : Nat

namespace Level

def empty : Level := ⟨[], [], 0⟩

/-- A condition under some negations. -/
def negated : Nat → Filter → Filter
  | 0, f => f
  | n + 1, f => .not (negated n f)

/-- One condition as itself, several under a join. -/
def merge (j : Join) : List Filter → Filter
  | [f] => f
  | fs => Filter.joined j fs

/-- A complete condition takes the negations before it. -/
def add (l : Level) (f : Filter) : Level :=
  ⟨l.disjuncts, l.conjuncts ++ [negated l.negations f], 0⟩

/-- A connective `OR` completes a member of the disjunction. -/
def nextDisjunct (l : Level) : Level :=
  ⟨l.disjuncts ++ [merge .and l.conjuncts], [], 0⟩

/-- The condition of the whole level. -/
def result (l : Level) : Filter :=
  merge .or (l.disjuncts ++ [merge .and l.conjuncts])

end Level

/-- A fragment read in part. -/
structure Reader where
  outer : List Level
  level : Level
  phase : Phase

/-- A comparison, or the condition that it stands for. -/
def comparisonFilter (left : Operand) (c : Comparison) (right : Operand) : Filter :=
  match left, c, right with
  | .literal (.int 1), .eq, .literal (.int 1) => .always
  | .literal (.int 1), .eq, .literal (.int 0) => .never
  | left, c, right => .compare left c right

/-- The condition that an operand is on its own: only a truth value is one. -/
def Operand.condition? : Operand → Option Filter
  | literal (.bool true) => some .always
  | literal (.bool false) => some .never
  | _ => none

namespace Reader

def start : Reader := ⟨[], .empty, .condition⟩

/-- The next token may be what `phase` says. -/
def expecting (r : Reader) (phase : Phase) : Reader := { r with phase }

/-- A condition is complete. -/
def complete (r : Reader) (f : Filter) : Reader := ⟨r.outer, r.level.add f, .connective⟩

/-- The step from a complete condition: a connective, or the end of a group. -/
def stepConnective (r : Reader) (t : Token) (span : Span) : Except SyntaxError Reader :=
  match t, r.outer with
  | .keyword .and, _ => .ok (r.expecting .condition)
  | .keyword .or, _ => .ok ⟨r.outer, r.level.nextDisjunct, .condition⟩
  | .rightParen, level :: outer =>
    .ok (complete ⟨outer, level, .connective⟩ (.group r.level.result))
  | t, [] => .error (.afterCondition t span)
  | t, _ :: _ => .error (.notExpected .rightParen t span)

/-- The step from the start of a condition. -/
def stepCondition (r : Reader) (l : Lexeme) (t : Token) : Except SyntaxError Reader :=
  match t with
  | .keyword .not =>
    .ok ⟨r.outer, { r.level with negations := r.level.negations + 1 }, .condition⟩
  | .leftParen => .ok ⟨r.level :: r.outer, .empty, .condition⟩
  | t =>
    match t.operand? with
    | some o => .ok (r.expecting (.operator o (String.ofList l.text)))
    | none => .error (.noOperand t l.span)

/-- The step from an operand: an operator, or what may follow a condition if the
operand is one on its own. -/
def stepOperator (r : Reader) (left : Operand) (text : String) (t : Token) (span : Span) :
    Except SyntaxError Reader :=
  match t with
  | .comparison c => .ok (r.expecting (.right left c))
  | .keyword .is => .ok (r.expecting (.afterIs left))
  | .keyword .member => .ok (r.expecting (.listOpen left false))
  | .keyword .like => .ok (r.expecting (.pattern left false))
  | .keyword .not => .ok (r.expecting (.afterNot left))
  | t =>
    match left.condition? with
    | some f => stepConnective (r.complete f) t span
    | none => .error (.noOperator text t span)

/-- The step at a member of a list. -/
def stepMember (r : Reader) (left : Operand) (negated : Bool) (members : List Operand)
    (t : Token) (span : Span) : Except SyntaxError Reader :=
  match t.operand? with
  | some o => .ok (r.expecting (.listNext left negated (members ++ [o])))
  | none => .error (.noOperand t span)

/-- The step at a token. -/
def stepToken (r : Reader) (l : Lexeme) (t : Token) : Except SyntaxError Reader :=
  match r.phase with
  | .condition => r.stepCondition l t
  | .operator left text => r.stepOperator left text t l.span
  | .right left c =>
    match t.operand? with
    | some o => .ok (r.complete (comparisonFilter left c o))
    | none => .error (.noOperand t l.span)
  | .afterIs left =>
    match t with
    | .keyword .not => .ok (r.expecting (.afterIsNot left))
    | .keyword .null => .ok (r.complete (.isNull left false))
    | t => .error (.noNull t l.span)
  | .afterIsNot left =>
    match t with
    | .keyword .null => .ok (r.complete (.isNull left true))
    | t => .error (.noNull t l.span)
  | .afterNot left =>
    match t with
    | .keyword .member => .ok (r.expecting (.listOpen left true))
    | .keyword .like => .ok (r.expecting (.pattern left true))
    | t => .error (.noNegatedOperator t l.span)
  | .listOpen left negated =>
    match t with
    | .leftParen => .ok (r.expecting (.listFirst left negated))
    | t => .error (.notExpected .leftParen t l.span)
  | .listFirst left negated =>
    match t with
    | .rightParen => .ok (r.complete (.member left [] negated))
    | t => r.stepMember left negated [] t l.span
  | .listMember left negated members => r.stepMember left negated members t l.span
  | .listNext left negated members =>
    match t with
    | .comma => .ok (r.expecting (.listMember left negated members))
    | .rightParen => .ok (r.complete (.member left members negated))
    | t => .error (.notExpected .rightParen t l.span)
  | .pattern left negated =>
    match t with
    | .text s => .ok (r.complete (.like left s negated))
    | t => .error (.noPattern t l.span)
  | .connective => r.stepConnective t l.span

/-- The reader after one more lexeme. -/
def step (r : Reader) (l : Lexeme) : Except SyntaxError Reader :=
  match l.token? with
  | some t => r.stepToken l t
  | none => .error (.noToken l)

/-- The condition that was read, if all parentheses are closed. -/
def close (r : Reader) : Except SyntaxError Filter :=
  match r.outer with
  | [] => .ok r.level.result
  | _ :: _ => .error (.ends Token.rightParen.describe)

/-- The condition that was read, at the end of the fragment. -/
def finish (r : Reader) : Except SyntaxError Filter :=
  match r.phase with
  | .connective => r.close
  | .operator left _ =>
    match left.condition? with
    | some f => (r.complete f).close
    | none => .error (.ends "comparison operator")
  | .condition | .right .. | .listFirst .. | .listMember .. => .error (.ends "operand")
  | .afterIs _ | .afterIsNot _ => .error (.ends "NULL")
  | .afterNot _ => .error (.ends "'IN' or 'LIKE'")
  | .listOpen .. => .error (.ends Token.leftParen.describe)
  | .listNext .. => .error (.ends Token.rightParen.describe)
  | .pattern .. => .error (.ends "string literal")

/-- The reader after some lexemes. -/
def run (r : Reader) (ls : List Lexeme) : Except SyntaxError Reader :=
  ls.foldlM step r

end Reader

/-- The condition that a sequence of lexemes spells. -/
def Filter.ofLexemes (ls : List Lexeme) : Except SyntaxError Filter := do
  let r ← Reader.start.run ls
  r.finish

/-- The condition that a source text spells. -/
def Filter.parse (source : String) : Except Diagnostic Filter :=
  (Filter.ofLexemes (Lexeme.all source.toList)).mapError (·.diagnostic source.toList)

end RowScope
