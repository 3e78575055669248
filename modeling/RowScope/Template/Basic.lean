/-
Templates of fragments.

A template is text with placeholders: a dollar sign and a name.  Everything else
stands for itself.

* `Template.parse` — a source text cut into text and placeholders;
* `Template.render` — the text with each placeholder replaced.

Design notes: a name reaches as far as it can, and a dot belongs to it only if a
word follows, so the dot that ends `$user.userId.` is text.
-/
import RowScope.Ascending
import RowScope.Text.Diagnostic
import RowScope.Text.Name

namespace RowScope

/-- A piece of a template. -/
inductive Segment where
  | text (s : String)
  | placeholder (name : String) (span : Span)
deriving DecidableEq

namespace Segment

/-- The name of a placeholder. -/
def name? : Segment → Option String
  | text _ => none
  | placeholder name _ => some name

/-- The text of a piece; a name without a value is replaced by `missing`. -/
def render (value? : String → Option String) (missing : String) : Segment → String
  | text s => s
  | placeholder name _ => (value? name).getD missing

end Segment

/-- A template with its pieces. -/
structure Template where
  source : String
  segments : List Segment
deriving DecidableEq

/-- The text of a template whose placeholders were replaced, and the names that
had no value. -/
structure Rendering where
  text : String
  unresolved : NameSet
deriving DecidableEq

/-- Whether every placeholder had a value. -/
def Rendering.isComplete (r : Rendering) : Bool :=
  r.unresolved.isEmpty

namespace Template

/-- The finding that a dollar sign has no name after it. -/
def nameless (offset : Nat) : Diagnostic :=
  ⟨"expected variable name after '$'", ⟨offset, offset + 1⟩,
    some "placeholders look like $deptName or $user.deptId"⟩

/-- The pieces of a text that starts at an offset. -/
def segmentsFrom (offset : Nat) : List Char → Except Diagnostic (List Segment)
  | [] => .ok []
  | '$' :: c :: cs =>
    if Name.isStart c then
      let name := c :: (Name.tail cs).1
      let stop := offset + byteLength ('$' :: name)
      have : (Name.tail cs).2.length ≤ cs.length := by
        have := congrArg List.length (Name.tail_append cs)
        simp only [List.length_append] at this
        omega
      (segmentsFrom stop (Name.tail cs).2).map
        (.placeholder (String.ofList name) ⟨offset, stop⟩ :: ·)
    else .error (nameless offset)
  | ['$'] => .error (nameless offset)
  | c :: cs =>
    let text := c :: cs.takeWhile (· != '$')
    have : (cs.dropWhile (· != '$')).length ≤ cs.length := (List.dropWhile_sublist _).length_le
    (segmentsFrom (offset + byteLength text) (cs.dropWhile (· != '$'))).map
      (.text (String.ofList text) :: ·)
termination_by cs => cs.length

/-- A source text as a template. -/
def parse (source : String) : Except Diagnostic Template :=
  (segmentsFrom 0 source.toList).map fun segments => ⟨source, segments⟩

/-- The names of the placeholders, in the order of their first places. -/
def names (t : Template) : List String :=
  (t.segments.filterMap Segment.name?).eraseDups

/-- The text with each placeholder replaced by its value, or by `missing`. -/
def render (t : Template) (value? : String → Option String) (missing : String) : Rendering where
  text := String.join (t.segments.map (Segment.render value? missing))
  unresolved := .ofList ((t.segments.filterMap Segment.name?).filter fun name =>
    (value? name).isNone)

end Template

end RowScope
