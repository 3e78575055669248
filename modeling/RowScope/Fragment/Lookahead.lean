/-
Reading lexemes one by one, with a look at the next one.

* `Lookahead.next` — the next lexeme, taken;
* `Lookahead.peek` — the next token, left in place; nothing is seen at the end and
  at a piece that is no token.
-/
import RowScope.Fragment.Lexeme

namespace RowScope

/-- A place in a source text.  `peeked` is what was looked at and not taken yet:
a lexeme, or the end. -/
structure Lookahead where
  offset : Nat
  rest : List Char
  peeked : Option (Option Lexeme)

namespace Lookahead

/-- The start of a source text. -/
def ofSource (source : String) : Lookahead :=
  ⟨0, source.toList, none⟩

/-- Takes a lexeme off the text, past what was looked at. -/
def scan (a : Lookahead) : Option Lexeme × Lookahead :=
  match Lexeme.next? a.offset a.rest with
  | none => (none, a)
  | some (l, rest) => (some l, ⟨l.span.stop, rest, a.peeked⟩)

/-- The next lexeme, taken; none at the end. -/
def next (a : Lookahead) : Option Lexeme × Lookahead :=
  match a.peeked with
  | some l => (l, { a with peeked := none })
  | none => a.scan

/-- Looks at the next lexeme, if it was not looked at yet. -/
def look (a : Lookahead) : Option Lexeme × Lookahead :=
  match a.peeked with
  | some l => (l, a)
  | none =>
    let (l, a) := a.scan
    (l, { a with peeked := some l })

/-- The token of a lexeme with its place. -/
def tokenOf (l : Lexeme) : Option PlacedToken :=
  l.token?.map fun t => ⟨t, l.span⟩

/-- The next token, left in place. -/
def peek (a : Lookahead) : Option PlacedToken × Lookahead :=
  let (l, a) := a.look
  (l.bind tokenOf, a)

/-- Whether the next token is the given one. -/
def peekIs (a : Lookahead) (t : Token) : Bool × Lookahead :=
  let (p, a) := a.peek
  (p.any fun p => p.token.same t, a)

end Lookahead

end RowScope
