/-
Places in a source text.

Offsets count the bytes of the UTF-8 encoding; lines and columns count
characters from one.

* `Span` — a range of bytes, its length and the cover of two ranges;
* `slice` — the characters in a range, if it starts and ends between characters;
* `Place.ofOffset` — the line and column of an offset;
* `lines` — the lines of a text without their terminators.
-/

namespace RowScope

/-- The number of bytes in the UTF-8 encoding of a text. -/
def byteLength : List Char → Nat
  | [] => 0
  | c :: cs => c.utf8Size + byteLength cs

@[simp] theorem byteLength_nil : byteLength [] = 0 := rfl

@[simp] theorem byteLength_cons (c : Char) (cs : List Char) :
    byteLength (c :: cs) = c.utf8Size + byteLength cs := rfl

@[simp] theorem byteLength_append (xs ys : List Char) :
    byteLength (xs ++ ys) = byteLength xs + byteLength ys := by
  induction xs with
  | nil => simp
  | cons c cs ih => simp [ih, Nat.add_assoc]

/-- The bytes from `start` up to but not including `stop`. -/
structure Span where
  start : Nat
  stop : Nat
deriving DecidableEq

namespace Span

/-- The empty span at an offset. -/
def point (offset : Nat) : Span := ⟨offset, offset⟩

/-- The smallest span that covers both. -/
def cover (a b : Span) : Span := ⟨min a.start b.start, max a.stop b.stop⟩

def length (s : Span) : Nat := s.stop - s.start

def isEmpty (s : Span) : Bool := s.start == s.stop

end Span

/-- The text after the first `n` bytes; none if a character straddles that place
or the text is shorter. -/
def dropBytes : Nat → List Char → Option (List Char)
  | 0, cs => some cs
  | _ + 1, [] => none
  | n + 1, c :: cs => if c.utf8Size ≤ n + 1 then dropBytes (n + 1 - c.utf8Size) cs else none

/-- The text in the first `n` bytes; none if a character straddles that place or
the text is shorter. -/
def takeBytes : Nat → List Char → Option (List Char)
  | 0, _ => some []
  | _ + 1, [] => none
  | n + 1, c :: cs =>
    if c.utf8Size ≤ n + 1 then (takeBytes (n + 1 - c.utf8Size) cs).map (c :: ·) else none

/-- The text in a span; none if an end of it lies inside a character or outside
the text, or the ends are in the wrong order. -/
def slice (cs : List Char) (s : Span) : Option (List Char) :=
  if s.start ≤ s.stop then (dropBytes s.start cs).bind (takeBytes s.length) else none

/-- A line and a column, counted from one. -/
structure Place where
  line : Nat
  column : Nat
deriving DecidableEq

namespace Place

/-- The place that is reached from `p` after the characters that start within
the first `n` bytes. -/
def after (p : Place) : Nat → List Char → Place
  | 0, _ => p
  | _ + 1, [] => p
  | n + 1, c :: cs =>
    if c = '\n' then after ⟨p.line + 1, 1⟩ (n + 1 - c.utf8Size) cs
    else after ⟨p.line, p.column + 1⟩ (n + 1 - c.utf8Size) cs

/-- The place of a byte offset. -/
def ofOffset (cs : List Char) (offset : Nat) : Place :=
  after ⟨1, 1⟩ offset cs

end Place

/-- The lines of a text.  A newline ends a line, a carriage return before it
belongs to the terminator, and a final empty line is left out. -/
def lines : List Char → List (List Char)
  | [] => []
  | '\n' :: cs => [] :: lines cs
  | '\r' :: '\n' :: cs => [] :: lines cs
  | c :: cs =>
    match lines cs with
    | [] => [[c]]
    | l :: ls => (c :: l) :: ls

end RowScope
