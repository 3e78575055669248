/-
What is wrong with a source text, and where.

* `Diagnostic` — a message, the span it speaks of and a hint;
* `Diagnostic.report` — the message with the line it speaks of, underlined.
-/
import RowScope.Text.Position

namespace RowScope

/-- A finding about a source text. -/
structure Diagnostic where
  message : String
  span : Span
  hint : Option String
deriving DecidableEq

namespace Diagnostic

/-- The span holds something that is no token. -/
def invalidInput (source : List Char) (span : Span) : Diagnostic where
  message := "unexpected input '" ++ String.ofList ((slice source span).getD []) ++ "'"
  span := span
  hint := none

/-- The source ends where more is needed. -/
def unexpectedEnd (source : List Char) (expected : String) : Diagnostic where
  message := "unexpected end of input, expected " ++ expected
  span := Span.point (byteLength source)
  hint := none

/-- A number at the right of a field of three characters. -/
def lineNumber (n : Nat) : String :=
  String.ofList ((toString n).toList.leftpad 3 ' ')

/-- How many marks follow the caret: the rest of the span, cut at the end of the
line. -/
def tailLength (span : Span) (column : Nat) (line : List Char) : Nat :=
  min span.length (byteLength line + 1 - column) - 1

/-- The line at a place with the span underlined below it; empty if the source
has no such line. -/
def snippet (source : List Char) (span : Span) (place : Place) : String :=
  match (lines source)[place.line - 1]? with
  | none => ""
  | some line =>
    "   |\n" ++ lineNumber place.line ++ "| " ++ String.ofList line ++ "\n   |"
      ++ String.ofList (List.replicate place.column ' ') ++ "^"
      ++ String.ofList (List.replicate (tailLength span place.column line) '~') ++ "\n"

/-- The finding with the source line that it speaks of. -/
def report (d : Diagnostic) (source : List Char) : String :=
  let place := Place.ofOffset source d.span.start
  "error: " ++ d.message ++ "\n  --> line " ++ toString place.line ++ ":" ++ toString place.column
    ++ "\n" ++ snippet source d.span place
    ++ match d.hint with
      | none => ""
      | some hint => "   = hint: " ++ hint ++ "\n"

end Diagnostic

end RowScope
