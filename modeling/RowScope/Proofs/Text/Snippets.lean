/-
The line that a finding shows, and the marks below it.

* `Span.Covers` — a span is the place of a part of a source, which starts with something to see or
  is its end;
* `Filter.covers_of_parse_error`, `Template.covers_of_parse_error` — the spans of all findings;
* `Excerpt` — a source cut at a line and at the part of a span on it;
* `Excerpt.marks` — the number of marks below a line;
* `Diagnostic.report_of_error` — what a report shows;
* `Diagnostic.wide_character_marked_twice` — a character of two bytes has two marks.

Design notes: the caret stands at a column, which counts characters.  How many marks there are is
counted in bytes, and is cut off at the bytes of the line less its column.  So there are as many
marks as characters if the part of the span on the line has characters of one byte, and with a
span that goes on after the line, also what stands before it.
-/
import Mathlib.Data.Nat.Digits.Defs
import RowScope.Proofs.Fragment.Faults
import RowScope.Proofs.Template.Scanning
import RowScope.Proofs.Text.Places

namespace RowScope

/-! ### The spans of findings -/

/-- A span is the place of a part of a source, which starts with something to see or is its end. -/
structure Span.Covers (span : Span) (source before part after : List Char) : Prop where
  source_eq : source = before ++ part ++ after
  span_eq : span = ⟨byteLength before, byteLength (before ++ part)⟩
  visible : (∃ c ∈ part.head?, Lexeme.isBlank c = false) ∨ part = [] ∧ after = []

namespace Lexeme

variable {offset : Nat} {cs rest : List Char} {l : Lexeme}

theorem head_of_next? (h : next? offset cs = some (l, rest)) :
    ∃ c ∈ l.text.head?, isBlank c = false := by
  obtain ⟨blanks, c, ds, -, -, hc, -, rfl⟩ := exists_cut_of_next? h
  obtain ⟨_, htext⟩ := Cut.exists_text_first c ds
  exact ⟨c, by rw [htext]; rfl, hc⟩

/-- A lexeme does not start with a blank. -/
theorem head_of_mem_allFrom (h : l ∈ allFrom offset cs) :
    ∃ c ∈ l.text.head?, isBlank c = false := by
  fun_induction allFrom offset cs with
  | case1 => exact absurd h List.not_mem_nil
  | case2 offset cs first rest hfirst _ ih =>
    rcases List.mem_cons.1 h with rfl | h
    · exact head_of_next? hfirst
    · exact ih h

end Lexeme

/-- A finding about a condition speaks of a lexeme or of the end of the source. -/
theorem Filter.covers_of_parse_error {s : String} {d : Diagnostic} (h : parse s = .error d) :
    ∃ before part after, d.span.Covers s.toList before part after := by
  rcases parse_error_cases h with ⟨e, hrun, rfl⟩ | ⟨-, hspan⟩
  · obtain ⟨ls, l, ms, r, hlexemes, -, hstep⟩ := Reader.exists_of_run_error hrun
    have hmem : l ∈ Lexeme.all s.toList := by
      rw [hlexemes]
      exact List.mem_append_right _ List.mem_cons_self
    obtain ⟨before, after, hs, hl⟩ := Lexeme.exists_of_mem_all hmem
    exact ⟨before, l.text, after, hs, (Reader.span_of_step hstep).trans hl,
      .inl (Lexeme.head_of_mem_allFrom hmem)⟩
  · refine ⟨s.toList, [], [], by simp, ?_, .inr ⟨rfl, rfl⟩⟩
    rw [hspan, List.append_nil]
    rfl

/-- A finding about a template speaks of a dollar sign. -/
theorem Template.covers_of_parse_error {s : String} {d : Diagnostic} (h : parse s = .error d) :
    ∃ before part after, d.span.Covers s.toList before part after := by
  rcases parse_cases s with ⟨_, hparse, -⟩ | ⟨e, hparse, hscan⟩
  · rw [hparse] at h
    cases h
  · rw [hparse] at h
    obtain rfl := Except.error.inj h
    cases hscan with | @error before after hnone hfirst =>
    refine ⟨before, ['$'], after, by rw [hnone.1]; simp, ?_, .inl ⟨'$', rfl, rfl⟩⟩
    rw [nameless, Nat.zero_add, byteLength_append]
    rfl

/-! ### Excerpts -/

/-- A source cut at a line and at the part of a span on it. -/
structure Excerpt where
  -- The lines before.
  prior : List Char
  -- The line, up to the span.
  before : List Char
  -- The part of the span on the line.
  marked : List Char
  -- The rest of the line.
  beyond : List Char
  -- What follows the line, with its terminator.
  after : List Char

namespace Excerpt

def line (e : Excerpt) : List Char :=
  e.before ++ e.marked ++ e.beyond

/-- The bytes of a span after the line. -/
def overhang (e : Excerpt) (span : Span) : Nat :=
  span.stop - byteLength (e.prior ++ e.line)

/-- How many marks there are: one for each byte of what is marked.  If the span goes on after the
line, there is one more for each byte of it, up to those by which the text before the span has
more bytes than characters. -/
def marks (e : Excerpt) (span : Span) : Nat :=
  max 1 (byteLength e.marked + min (e.overhang span) (byteLength e.before - e.before.length))

/-- The excerpt is of the source, at the line on which the span starts. -/
structure Of (e : Excerpt) (source : List Char) (span : Span) : Prop where
  source_eq : source = e.prior ++ e.line ++ e.after
  endsLine : EndsLine e.prior
  newline_notMem : '\n' ∉ e.line
  isLineEnd : IsLineEnd e.after
  start_eq : span.start = byteLength (e.prior ++ e.before)
  stop_eq : min span.stop (byteLength (e.prior ++ e.line))
    = byteLength (e.prior ++ e.before ++ e.marked)

/-- The number of the line. -/
def number (e : Excerpt) : Nat :=
  e.prior.count '\n' + 1

/-- The column at which the span starts. -/
def column (e : Excerpt) : Nat :=
  e.before.length + 1

variable {e : Excerpt} {source : List Char} {span : Span}

theorem Of.place_eq (h : e.Of source span) :
    Place.ofOffset source span.start = ⟨e.number, e.column⟩ := by
  have hbefore : '\n' ∉ e.before := fun hmem =>
    h.newline_notMem (List.mem_append_left _ (List.mem_append_left _ hmem))
  have hsource : source = e.prior ++ e.before ++ (e.marked ++ e.beyond ++ e.after) := by
    rw [h.source_eq, line]
    simp
  rw [h.start_eq, hsource]
  exact Place.ofOffset_of_endsLine h.endsLine hbefore _

/-- The caret is the first mark, and the others follow it. -/
theorem Of.tailLength_eq (h : e.Of source span) :
    Diagnostic.tailLength span e.column e.line = e.marks span - 1 := by
  have hstop := h.stop_eq
  have hbefore := length_le_byteLength e.before
  unfold Diagnostic.tailLength Span.length marks overhang column
  rw [h.start_eq]
  simp only [line, byteLength_append] at hstop ⊢
  omega

/-- There are marks for all characters of the part of a span on the line. -/
theorem length_le_marks (e : Excerpt) (span : Span) : max 1 e.marked.length ≤ e.marks span := by
  have hmarked := length_le_byteLength e.marked
  unfold marks
  omega

/-- There are no more marks if no character that counts has more than one byte. -/
theorem marks_eq_length_iff (h : e.marked = [] → e.overhang span = 0) :
    e.marks span = max 1 e.marked.length ↔
      (∀ c ∈ e.marked, c.utf8Size = 1) ∧
        (e.overhang span = 0 ∨ ∀ c ∈ e.before, c.utf8Size = 1) := by
  rw [← byteLength_eq_length_iff, ← byteLength_eq_length_iff]
  have hmarked := length_le_byteLength e.marked
  have hbefore := length_le_byteLength e.before
  unfold marks
  rcases List.eq_nil_or_concat e.marked with hnil | ⟨_, _, hne⟩
  · rw [hnil, h hnil]
    simp
  · have hpos : 0 < e.marked.length := by simp [hne]
    omega

end Excerpt

section Cutting

variable {source pre part post line : List Char} {span : Span}

theorem isBlank_of_isLineEnd {rest : List Char} (h : IsLineEnd rest) :
    ∀ c ∈ rest.head?, Lexeme.isBlank c = true := by
  obtain rfl | ⟨more, rfl | rfl⟩ := h
  · simp
  · simp [Lexeme.isBlank]
  · simp [Lexeme.isBlank]

/-- A line that holds what stands before something to see reaches up to it. -/
theorem exists_append_of_isLineEnd {before rest : List Char} (hbefore : '\n' ∉ before)
    (hvisible : (∃ c ∈ part.head?, Lexeme.isBlank c = false) ∨ part = [] ∧ post = [])
    (hcut : before ++ (part ++ post) = line ++ rest) (hrest : IsLineEnd rest) :
    ∃ held, line = before ++ held ∧ part ++ post = held ++ rest := by
  rcases List.append_eq_append_iff.1 hcut with h | ⟨cut, rfl, rfl⟩
  · exact h
  cases cut with
  | nil => exact ⟨[], by simp, rfl⟩
  | cons c cut =>
    -- the line would end before the span, at a newline after it or at a part of the terminator
    exfalso
    rw [List.mem_append, List.mem_cons, not_or, not_or] at hbefore
    rcases hrest with hrest | ⟨more, hrest | hrest⟩
    · cases hrest
    · exact hbefore.2.1 (List.cons.inj hrest).1.symm
    · obtain ⟨-, hrest⟩ := List.cons.inj hrest
      cases cut with
      | cons d cut => exact hbefore.2.2 (by simp [(List.cons.inj hrest).1])
      | nil =>
        obtain ⟨d, hd, hblank⟩ | ⟨rfl, rfl⟩ := hvisible
        · obtain ⟨ds, rfl⟩ := List.head?_eq_some_iff.1 hd
          rw [(List.cons.inj hrest).1] at hblank
          cases hblank
        · cases hrest

theorem exists_excerpt (h : span.Covers source pre part post)
    (hline : (lines source)[(Place.ofOffset source span.start).line - 1]? = some line) :
    ∃ e : Excerpt, e.Of source span ∧ e.line = line ∧
      (e.marked = [] → e.overhang span = 0) := by
  obtain ⟨rfl, rfl, hvisible⟩ := h
  obtain ⟨prior, before, rfl, hprior, hbefore⟩ := exists_endsLine pre
  have hhead : (lines (before ++ (part ++ post))).head? = some line := by
    rw [List.append_assoc _ part, Place.ofOffset_of_endsLine hprior hbefore] at hline
    rw [← drop_lines_of_endsLine hprior, List.head?_drop, ← List.append_assoc]
    exact hline
  obtain ⟨rest, hcut, hnewline, hrest⟩ := exists_of_head?_lines hhead
  obtain ⟨held, rfl, hheld⟩ := exists_append_of_isLineEnd hbefore hvisible hcut hrest
  rcases List.append_eq_append_iff.1 hheld with ⟨beyond, rfl, rfl⟩ | ⟨more, rfl, rfl⟩
  · -- the span ends on the line
    refine ⟨⟨prior, before, part, beyond, rest⟩, ⟨?_, hprior, ?_, hrest, rfl, ?_⟩, ?_, fun _ => ?_⟩
    · simp [Excerpt.line]
    · rwa [Excerpt.line, List.append_assoc]
    · simp only [Excerpt.line, byteLength_append]
      omega
    · rw [Excerpt.line, List.append_assoc]
    · simp only [Excerpt.overhang, Excerpt.line, byteLength_append]
      omega
  · -- the span goes on after the line, or ends with it
    refine ⟨⟨prior, before, held, [], more ++ post⟩, ⟨?_, hprior, ?_, hrest, rfl, ?_⟩, ?_, ?_⟩
    · simp [Excerpt.line]
    · rwa [Excerpt.line, List.append_nil]
    · simp only [Excerpt.line, byteLength_append, byteLength_nil]
      omega
    · rw [Excerpt.line, List.append_nil]
    · -- what is seen does not start with a terminator
      rintro rfl
      obtain ⟨c, hc, hblank⟩ | ⟨hmore, -⟩ := hvisible
      · obtain ⟨cs, rfl⟩ := List.head?_eq_some_iff.1 hc
        rw [isBlank_of_isLineEnd hrest c rfl] at hblank
        cases hblank
      · obtain rfl : more = [] := hmore
        simp [Excerpt.overhang, Excerpt.line]

end Cutting

namespace Diagnostic

variable {d : Diagnostic} {source : List Char} {line : List Char} {n column : Nat}

/-- The line of the source that a report shows, if it shows one. -/
def shownLine? (d : Diagnostic) (source : List Char) : Option (List Char) :=
  (lines source)[(Place.ofOffset source d.span.start).line - 1]?

/-- What a report says before the line. -/
def heading (d : Diagnostic) (place : Place) : String :=
  "error: " ++ d.message ++ "\n  --> line " ++ toString place.line ++ ":" ++ toString place.column
    ++ "\n"

/-- What a report says after the line. -/
def hintText (d : Diagnostic) : String :=
  match d.hint with
  | none => ""
  | some hint => "   = hint: " ++ hint ++ "\n"

/-- What stands before a line in a report. -/
def margin (n : Nat) : String :=
  lineNumber n ++ "| "

/-- What stands before the caret. -/
def lead (column : Nat) : String :=
  "   |" ++ String.ofList (List.replicate column ' ')

/-- The margin of a line has one width up to a thousand lines. -/
theorem length_margin (h : n < 1000) : (margin n).length = 5 := by
  have hdigits : (toString n).toList.length ≤ 3 := by
    rw [String.length_toList]
    exact Nat.repr_length n 3 (by decide) h
  have hnumber : (lineNumber n).length = 3 := by
    rw [lineNumber, String.length_ofList, List.length_leftpad]
    omega
  rw [margin, String.length_append, hnumber]
  rfl

theorem length_lead (column : Nat) : (lead column).length = 4 + column := by
  have hblanks : (String.ofList (List.replicate column ' ')).length = column := by
    rw [String.length_ofList, List.length_replicate]
  rw [lead, String.length_append, hblanks]
  rfl

theorem report_of_shownLine (h : d.shownLine? source = some line) :
    d.report source
      = d.heading (.ofOffset source d.span.start) ++ "   |\n"
        ++ (margin (Place.ofOffset source d.span.start).line ++ String.ofList line ++ "\n")
        ++ (lead (Place.ofOffset source d.span.start).column ++ "^" ++ String.ofList
          (List.replicate
            (tailLength d.span (Place.ofOffset source d.span.start).column line) '~') ++ "\n")
        ++ d.hintText := by
  have hbreak : "\n   |" = "\n" ++ "   |" := rfl
  unfold shownLine? at h
  rw [report, snippet, h, heading, hintText, margin, lead]
  cases d.hint <;> simp only [hbreak, String.append_assoc]

/-- **What a report shows**: the line on which the span starts, with a caret below the first
character of the span and no fewer marks than characters.  There are just as many marks, one at
least, if and only if all characters of the part of the span on the line have one byte, and so
have those before it on the line or the span does not go on after the line. -/
theorem report_of_error {source : String} {d : Diagnostic} {line : List Char}
    (h : Filter.parse source = .error d ∨ Template.parse source = .error d)
    (hlines : (lines source.toList).length < 1000)
    (hline : d.shownLine? source.toList = some line) :
    ∃ e : Excerpt, e.Of source.toList d.span ∧ e.line = line ∧
      d.report source.toList
        = d.heading ⟨e.number, e.column⟩ ++ "   |\n"
          ++ (margin e.number ++ String.ofList line ++ "\n")
          ++ (lead e.column ++ "^" ++ String.ofList (List.replicate (e.marks d.span - 1) '~')
            ++ "\n")
          ++ d.hintText ∧
      (lead e.column).length = (margin e.number).length + e.before.length ∧
      max 1 e.marked.length ≤ e.marks d.span ∧
      (e.marks d.span = max 1 e.marked.length ↔
        (∀ c ∈ e.marked, c.utf8Size = 1) ∧
          (e.overhang d.span = 0 ∨ ∀ c ∈ e.before, c.utf8Size = 1)) := by
  obtain ⟨before, part, after, hcovers⟩ :=
    h.elim Filter.covers_of_parse_error Template.covers_of_parse_error
  obtain ⟨e, he, rfl, hoverhang⟩ := exists_excerpt hcovers hline
  have hreport := report_of_shownLine hline
  rw [he.place_eq, he.tailLength_eq] at hreport
  refine ⟨e, he, rfl, hreport, ?_, e.length_le_marks d.span, Excerpt.marks_eq_length_iff hoverhang⟩
  have hnumber : e.number < 1000 := by
    unfold shownLine? at hline
    rw [he.place_eq] at hline
    have hlt : e.number - 1 < (lines source.toList).length := (List.getElem?_eq_some_iff.1 hline).1
    have hpos : 0 < e.number := Nat.succ_pos _
    omega
  rw [length_margin hnumber, length_lead, Excerpt.column]
  omega

/-- A quote that is never closed, on the second of four lines. -/
theorem report_of_error_quote :
    let source := "1 = 1 OR\r\n  a = 'é\n\nb"
    ∃ d e, Filter.parse source = .error d ∧ (lines source.toList).length < 1000 ∧
      d.shownLine? source.toList = some "  a = 'é".toList ∧ Excerpt.Of e source.toList d.span ∧
      d.report source.toList
        = d.heading ⟨e.number, e.column⟩ ++ "   |\n" ++ (margin e.number ++ "  a = 'é" ++ "\n")
          ++ (lead e.column ++ "^" ++ String.ofList (List.replicate (e.marks d.span - 1) '~')
            ++ "\n") ++ d.hintText ∧
      (lead e.column).length = (margin e.number).length + e.before.length := by
  intro source
  have hrun : (errorOf? (Filter.parse source)).any (fun d =>
      d.shownLine? source.toList == some "  a = 'é".toList) = true := by
    decide +kernel
  obtain ⟨d, hd, hline⟩ := (Option.any_eq_true _ _).1 hrun
  have hparse := errorOf?_eq_some_iff.1 hd
  have hlines : (lines source.toList).length < 1000 := by decide
  obtain ⟨e, he, -, hreport, halign, -⟩ :=
    report_of_error (.inl hparse) hlines (beq_iff_eq.1 hline)
  rw [String.ofList_toList] at hreport
  exact ⟨d, e, hparse, hlines, beq_iff_eq.1 hline, he, hreport, halign⟩

/-- One character of two bytes is found wrong, and there is a tilde after the caret. -/
theorem wide_character_marked_twice :
    let source := "a = é"
    ∃ d, Filter.parse source = .error d ∧ slice source.toList d.span = some ['é'] ∧
      d.report source.toList
        = "error: unexpected input 'é'\n  --> line 1:5\n   |\n  1| a = é\n   |     ^~\n" := by
  intro source
  have hrun : (errorOf? (Filter.parse source)).any (fun d =>
      slice source.toList d.span == some ['é'] && d.report source.toList
        == "error: unexpected input 'é'\n  --> line 1:5\n   |\n  1| a = é\n   |     ^~\n")
      = true := by
    decide +kernel
  obtain ⟨d, hd, hspan⟩ := (Option.any_eq_true _ _).1 hrun
  rw [Bool.and_eq_true, beq_iff_eq, beq_iff_eq] at hspan
  exact ⟨d, errorOf?_eq_some_iff.1 hd, hspan⟩

end Diagnostic

end RowScope
