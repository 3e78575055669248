/-
Lexemes: a fragment cut into tokens.

The longest token at each place is taken.  What no token starts with is a piece of
one character; an integer beyond 64 bits is a piece of its own, and so is a quote
that is never closed, with all that follows it.

* `Lexeme.next?` — the first lexeme of a text and the text after it;
* `Lexeme.all` — all lexemes of a text;
* `tokens?` — the tokens of a text, or the first piece that is none.

Design notes: a name takes a dot after it even when no word follows the dot, so
`a.` is one token, and it takes a second dot unless what was read so far could be
the start of a keyword, so `e..` is one token and `a..` is not.  A number takes a
point only with a digit after it.
-/
import RowScope.Fragment.Token
import RowScope.Number.Numeral
import RowScope.Text.Diagnostic
import RowScope.Text.Name

namespace RowScope

/-- What is cut off the start of a text: the characters, the text after them and
the token that they are, if they are one. -/
structure Cut where
  text : List Char
  rest : List Char
  token? : Option Token

namespace Cut

/-- Splits a text after a word of a name, or after a dot, into the rest of the name
and what follows it.  Up to `dots` dots may come next, then a word, and so on; the
dots belong to the name even if no word follows them. -/
def nameTail (dots : Nat) (inWord : Bool) : List Char → List Char × List Char
  | [] => ([], [])
  | c :: cs =>
    if c = '.' ∧ 0 < dots then
      let (more, rest) := nameTail (dots - 1) false cs
      (c :: more, rest)
    else if if inWord then Name.isPart c else Name.isStart c then
      let (more, rest) := nameTail 2 true cs
      (c :: more, rest)
    else ([], c :: cs)

/-- How many dots in a row a name takes after its first word. -/
def dotsAfter (word : List Char) : Nat :=
  if Keyword.mayStartWith word then 1 else 2

/-- A name, or the keyword that it spells. -/
def name (c : Char) (cs : List Char) : Cut :=
  let word := c :: cs.takeWhile Name.isPart
  let (more, rest) := nameTail (dotsAfter word) true (cs.dropWhile Name.isPart)
  let text := word ++ more
  ⟨text, rest, some (match Keyword.ofName? text with
    | some k => .keyword k
    | none => .name (String.ofList text))⟩

/-- A number: `sign` is what stands before the digits. -/
def number (sign : List Char) (cs : List Char) : Cut :=
  let whole := cs.takeWhile Char.isDigit
  let negative := !sign.isEmpty
  let integer : Cut := ⟨sign ++ whole, cs.dropWhile Char.isDigit,
    (toInt64? (signed negative (digitsValue whole))).map .int⟩
  match cs.dropWhile Char.isDigit with
  | '.' :: rest =>
    let fraction := rest.takeWhile Char.isDigit
    if fraction.isEmpty then integer
    else ⟨sign ++ whole ++ '.' :: fraction, rest.dropWhile Char.isDigit,
      some (.float (readFloat negative whole fraction))⟩
  | _ => integer

/-- Quoted text, after the opening quote. -/
def quoted (cs : List Char) : Cut :=
  match Quoted.close? cs with
  | some (body, rest) =>
    ⟨'\'' :: body ++ ['\''], rest, some (.text (String.ofList (Quoted.decode body)))⟩
  | none => ⟨'\'' :: cs, [], none⟩

/-- The longest token at the start of the text `c :: cs`, or the piece there that
is none. -/
def first (c : Char) (cs : List Char) : Cut :=
  if Name.isStart c then name c cs
  else if c.isDigit then number [] (c :: cs)
  else match c, cs with
    | '\'', cs => quoted cs
    | '-', d :: ds => if d.isDigit then number ['-'] (d :: ds) else ⟨['-'], d :: ds, none⟩
    | '=', cs => ⟨['='], cs, some (.comparison .eq)⟩
    | '!', '=' :: cs => ⟨['!', '='], cs, some (.comparison .ne)⟩
    | '<', '>' :: cs => ⟨['<', '>'], cs, some (.comparison .ne)⟩
    | '<', '=' :: cs => ⟨['<', '='], cs, some (.comparison .le)⟩
    | '>', '=' :: cs => ⟨['>', '='], cs, some (.comparison .ge)⟩
    | '<', cs => ⟨['<'], cs, some (.comparison .lt)⟩
    | '>', cs => ⟨['>'], cs, some (.comparison .gt)⟩
    | ',', cs => ⟨[','], cs, some .comma⟩
    | '(', cs => ⟨['('], cs, some .leftParen⟩
    | ')', cs => ⟨[')'], cs, some .rightParen⟩
    | c, cs => ⟨[c], cs, none⟩

theorem nameTail_append (dots : Nat) (inWord : Bool) (cs : List Char) :
    (nameTail dots inWord cs).1 ++ (nameTail dots inWord cs).2 = cs := by
  fun_induction nameTail dots inWord cs <;> simp_all

theorem name_append (c : Char) (cs : List Char) :
    (name c cs).text ++ (name c cs).rest = c :: cs := by
  have h : cs.takeWhile Name.isPart ++ cs.dropWhile Name.isPart = cs :=
    List.takeWhile_append_dropWhile
  simp only [name, List.cons_append, List.append_assoc, nameTail_append, h]

theorem number_append (sign cs : List Char) :
    (number sign cs).text ++ (number sign cs).rest = sign ++ cs := by
  have h : cs.takeWhile Char.isDigit ++ cs.dropWhile Char.isDigit = cs :=
    List.takeWhile_append_dropWhile
  unfold number
  split
  · next rest hr =>
    have h' : rest.takeWhile Char.isDigit ++ rest.dropWhile Char.isDigit = rest :=
      List.takeWhile_append_dropWhile
    dsimp only
    split
    · rw [List.append_assoc, h]
    · rw [List.append_assoc, List.append_assoc, List.cons_append, h', ← hr, h]
  · rw [List.append_assoc, h]

theorem quoted_append (cs : List Char) : (quoted cs).text ++ (quoted cs).rest = '\'' :: cs := by
  unfold quoted
  split
  · next h => simp [Quoted.append_of_close? h]
  · simp

theorem first_append (c : Char) (cs : List Char) :
    (first c cs).text ++ (first c cs).rest = c :: cs := by
  unfold first
  split
  · exact name_append c cs
  split
  · exact number_append [] (c :: cs)
  split <;> try rfl
  · exact quoted_append _
  · split
    · exact number_append ['-'] _
    · rfl

theorem name_text_ne_nil (c : Char) (cs : List Char) : (name c cs).text ≠ [] := by
  simp [name]

theorem number_text_ne_nil (sign cs : List Char) (h : sign ++ cs.takeWhile Char.isDigit ≠ []) :
    (number sign cs).text ≠ [] := by
  unfold number
  split
  · dsimp only
    split <;> simp_all
  · exact h

theorem first_text_ne_nil (c : Char) (cs : List Char) : (first c cs).text ≠ [] := by
  unfold first
  split
  · exact name_text_ne_nil c cs
  split
  · next h => exact number_text_ne_nil [] (c :: cs) (by simp [h])
  split <;> try simp
  · unfold quoted
    split <;> simp
  · split
    · exact number_text_ne_nil _ _ (by simp)
    · simp

theorem first_rest_lt (c : Char) (cs : List Char) :
    (first c cs).rest.length < (c :: cs).length := by
  have h := congrArg List.length (first_append c cs)
  have h' := List.length_pos_iff.2 (first_text_ne_nil c cs)
  simp only [List.length_append] at h
  omega

end Cut

/-- A piece of a source text: where it starts, its characters, and the token that
it is, if it is one. -/
structure Lexeme where
  start : Nat
  text : List Char
  token? : Option Token

namespace Lexeme

def span (l : Lexeme) : Span :=
  ⟨l.start, l.start + byteLength l.text⟩

def isBlank (c : Char) : Bool :=
  c == ' ' || c == '\t' || c == '\r' || c == '\n'

/-- The first lexeme of a text that starts at an offset, and the text after it;
none if the text is blank. -/
def next? (offset : Nat) (cs : List Char) : Option (Lexeme × List Char) :=
  match cs.dropWhile isBlank with
  | [] => none
  | c :: rest =>
    let cut := Cut.first c rest
    some (⟨offset + byteLength (cs.takeWhile isBlank), cut.text, cut.token?⟩, cut.rest)

theorem next?_rest_lt {offset : Nat} {cs rest : List Char} {l : Lexeme}
    (h : next? offset cs = some (l, rest)) : rest.length < cs.length := by
  unfold next? at h
  split at h
  · simp at h
  · next c rest' hd =>
    simp only [Option.some.injEq, Prod.mk.injEq] at h
    obtain ⟨-, rfl⟩ := h
    have h1 := Cut.first_rest_lt c rest'
    have h2 := congrArg List.length (List.takeWhile_append_dropWhile (p := isBlank) (l := cs))
    rw [hd, List.length_append] at h2
    omega

/-- The lexemes of a text that starts at an offset. -/
def allFrom (offset : Nat) (cs : List Char) : List Lexeme :=
  match h : next? offset cs with
  | none => []
  | some (l, rest) =>
    have := next?_rest_lt h
    l :: allFrom l.span.stop rest
termination_by cs.length

/-- The lexemes of a text. -/
def all (cs : List Char) : List Lexeme :=
  allFrom 0 cs

end Lexeme

/-- A token and the bytes that it stands on. -/
structure PlacedToken where
  token : Token
  span : Span
deriving DecidableEq

/-- The token of a lexeme, or the finding that it is none. -/
def Lexeme.placed (source : List Char) (l : Lexeme) : Except Diagnostic PlacedToken :=
  match l.token? with
  | some t => .ok ⟨t, l.span⟩
  | none => .error (.invalidInput source l.span)

/-- The tokens of a source text; the first piece that is no token is an error. -/
def tokens? (source : String) : Except Diagnostic (List PlacedToken) :=
  (Lexeme.all source.toList).mapM (Lexeme.placed source.toList)

end RowScope
