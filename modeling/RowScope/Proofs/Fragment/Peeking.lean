/-
Looks at a source text, and what is taken off it.

* `Lookahead.Call` — what may be done at a place in a source text;
* `Lookahead.StandsAt` — the lexemes that are still to be taken at a place;
* `Lookahead.StandsAt.next`, `Lookahead.StandsAt.look` — the first of them is taken or seen, and a
  look leaves them all;
* `Lookahead.StandsAt.after` — after some calls, as many are gone as were taken;
* `Lookahead.looks_are_free` — looks change nothing in what is taken, and show what comes.

Design notes: a place before a look and the place after it differ, as the second one keeps the
lexeme beside the text that follows it.  What is still to be taken is the same at both, so a place
is followed by that alone.  If the end was seen, nothing is kept but the fact, and taking it leads
back to the text, where it has to be found again.
-/
import RowScope.Fragment.Lookahead
import RowScope.Proofs.Fragment.Pieces

namespace RowScope

namespace Lookahead

/-- What may be done at a place in a source text. -/
inductive Call where
  | peek
  | peekIs (t : Token)
  | next
deriving DecidableEq

/-- The place after a call. -/
def perform (a : Lookahead) : Call → Lookahead
  | .peek => a.peek.2
  | .peekIs t => (a.peekIs t).2
  | .next => a.next.2

/-- The place after some calls. -/
def after (a : Lookahead) (calls : List Call) : Lookahead :=
  calls.foldl perform a

/-- What is taken by some calls, in order. -/
def taken (a : Lookahead) : List Call → List (Option Lexeme)
  | [] => []
  | .next :: calls => a.next.1 :: (a.perform .next).taken calls
  | call :: calls => (a.perform call).taken calls

/-- The lexemes that are still to be taken at a place. -/
inductive StandsAt : Lookahead → List Lexeme → Prop
  -- Nothing was looked at.
  | unseen (offset : Nat) (rest : List Char) :
      StandsAt ⟨offset, rest, none⟩ (Lexeme.allFrom offset rest)
  -- A lexeme was looked at.
  | seen (offset : Nat) (rest : List Char) (l : Lexeme) :
      StandsAt ⟨offset, rest, some (some l)⟩ (l :: Lexeme.allFrom offset rest)
  -- The end was looked at.
  | ended {offset : Nat} {rest : List Char} (h : Lexeme.allFrom offset rest = []) :
      StandsAt ⟨offset, rest, some none⟩ []

variable {a : Lookahead} {ls : List Lexeme}

theorem standsAt_ofSource (source : String) :
    StandsAt (ofSource source) (Lexeme.all source.toList) :=
  .unseen 0 source.toList

/-- The first lexeme that is still to come is taken. -/
theorem StandsAt.next (h : StandsAt a ls) : a.next.1 = ls.head? ∧ StandsAt a.next.2 ls.tail := by
  cases h with
  | unseen offset rest =>
    unfold Lookahead.next scan
    rw [Lexeme.allFrom_eq]
    cases hnext : Lexeme.next? offset rest with
    | none =>
      have hend : Lexeme.allFrom offset rest = [] := by rw [Lexeme.allFrom_eq, hnext]
      have hstands := StandsAt.unseen offset rest
      rw [hend] at hstands
      exact ⟨rfl, hstands⟩
    | some found => exact ⟨rfl, .unseen _ _⟩
  | seen offset rest l => exact ⟨rfl, .unseen offset rest⟩
  | @ended offset rest hend =>
    have hstands := StandsAt.unseen offset rest
    rw [hend] at hstands
    exact ⟨rfl, hstands⟩

/-- The first lexeme that is still to come is seen, and all of them are still to come. -/
theorem StandsAt.look (h : StandsAt a ls) : a.look.1 = ls.head? ∧ StandsAt a.look.2 ls := by
  cases h with
  | unseen offset rest =>
    unfold Lookahead.look scan
    rw [Lexeme.allFrom_eq]
    cases hnext : Lexeme.next? offset rest with
    | none => exact ⟨rfl, .ended (by rw [Lexeme.allFrom_eq, hnext])⟩
    | some found => exact ⟨rfl, .seen _ _ _⟩
  | seen offset rest l => exact ⟨rfl, .seen offset rest l⟩
  | ended hend => exact ⟨rfl, .ended hend⟩

theorem StandsAt.peek (h : StandsAt a ls) :
    a.peek.1 = ls.head?.bind tokenOf ∧ StandsAt a.peek.2 ls :=
  ⟨congrArg (·.bind tokenOf) h.look.1, h.look.2⟩

theorem StandsAt.peekIs (h : StandsAt a ls) (t : Token) :
    (a.peekIs t).1 = (ls.head?.bind tokenOf).any (·.token.same t) ∧ StandsAt (a.peekIs t).2 ls :=
  ⟨congrArg (·.any (·.token.same t)) h.peek.1, h.peek.2⟩

theorem StandsAt.perform (h : StandsAt a ls) (call : Call) :
    StandsAt (a.perform call) (ls.drop ([call].count .next)) := by
  cases call with
  | peek => exact h.peek.2
  | peekIs t => exact (h.peekIs t).2
  | next => exact List.drop_one ▸ h.next.2

/-- After some calls, as many lexemes are gone as were taken. -/
theorem StandsAt.after (h : StandsAt a ls) (calls : List Call) :
    StandsAt (a.after calls) (ls.drop (calls.count .next)) := by
  induction calls generalizing a ls with
  | nil => exact h
  | cons call calls ih =>
    rw [List.count_cons, Nat.add_comm, ← List.drop_drop, ← List.count_singleton]
    exact ih (h.perform call)

/-- What is taken are the lexemes to come, one after the other, and then the end. -/
theorem StandsAt.taken (h : StandsAt a ls) (calls : List Call) :
    a.taken calls = (List.range (calls.count .next)).map (ls[·]?) := by
  induction calls generalizing a ls with
  | nil => rfl
  | cons call calls ih =>
    have hrest := ih (h.perform call)
    cases call with
    | next =>
      rw [List.count_cons_self, List.range_succ_eq_map, List.map_cons, List.map_map,
        Lookahead.taken, h.next.1, hrest, List.head?_eq_getElem?]
      refine congrArg _ (List.map_congr_left fun k _ => ?_)
      rw [List.getElem?_drop, Nat.add_comm]
      rfl
    | _ => exact hrest

/-- No token is shown if there is none, or no lexeme at all. -/
theorem bind_tokenOf_eq_none_iff {found : Option Lexeme} :
    found.bind tokenOf = none ↔ found = none ∨ ∃ l, found = some l ∧ l.token? = none := by
  cases found with
  | none => simp
  | some l => simp [tokenOf]

/-- What is taken next, after some calls. -/
def takenAfter (a : Lookahead) (calls : List Call) : Option Lexeme :=
  (a.after calls).next.1

theorem StandsAt.takenAfter (h : StandsAt a ls) {looks : List Call} (hlooks : .next ∉ looks) :
    a.takenAfter looks = ls.head? := by
  have hnext := (h.after looks).next.1
  rwa [List.count_eq_zero.2 hlooks, List.drop_zero] at hnext

/-- **Looking ahead loses and repeats nothing.**  Whatever is done at the start of a source text,
what is taken is what would be taken without looks: the lexemes of the text in order, and after
them the end.  And a look shows the token that is taken next, whatever other looks there are in
between; it shows nothing just if what is taken next is no token or the end. -/
theorem looks_are_free (source : String) (calls : List Call) :
    let a := (ofSource source).after calls
    (ofSource source).taken calls
      = (ofSource source).taken (List.replicate (calls.count .next) .next) ∧
    (ofSource source).taken calls
      = (List.range (calls.count .next)).map ((Lexeme.all source.toList)[·]?) ∧
    ∀ looks : List Call, .next ∉ looks →
      a.peek.1 = (a.takenAfter (.peek :: looks)).bind tokenOf ∧
      (a.peek.1 = none ↔ a.takenAfter (.peek :: looks) = none ∨
        ∃ l, a.takenAfter (.peek :: looks) = some l ∧ l.token? = none) ∧
      ∀ t, (a.peekIs t).1
        = ((a.takenAfter (.peekIs t :: looks)).bind tokenOf).any (·.token.same t) := by
  intro a
  have hstart := standsAt_ofSource source
  have ha : StandsAt a ((Lexeme.all source.toList).drop (calls.count .next)) := hstart.after calls
  refine ⟨?_, hstart.taken calls, fun looks hlooks => ?_⟩
  · rw [hstart.taken, hstart.taken, List.count_replicate_self]
  have hpeek : a.takenAfter (.peek :: looks) = _ := ha.takenAfter (by simpa using hlooks)
  refine ⟨?_, ?_, fun t => ?_⟩
  · rw [hpeek, ha.peek.1]
  · rw [hpeek, ha.peek.1]
    exact bind_tokenOf_eq_none_iff
  · have hnext : a.takenAfter (.peekIs t :: looks) = _ := ha.takenAfter (by simpa using hlooks)
    rw [hnext, (ha.peekIs t).1]

/-- Looks at a piece that is no token show nothing, and the piece is taken after them. -/
theorem looks_are_free_no_token :
    let a := (ofSource "a ;").after [.peek, .next, .peekIs .comma]
    .next ∉ [Call.peek, .peekIs .comma] ∧ a.peek.1 = none ∧
      ∃ l, a.takenAfter [.peek, .peek, .peekIs .comma] = some l ∧ l.token? = none := by
  intro a
  have hlooks : Call.next ∉ [Call.peek, .peekIs .comma] := by decide
  obtain ⟨-, hnone, -⟩ := (looks_are_free "a ;" [.peek, .next, .peekIs .comma]).2.2 _ hlooks
  have hpeek : a.peek.1 = none := by decide
  obtain hend | hpiece := hnone.1 hpeek
  · exact absurd hend (by decide)
  · exact ⟨hlooks, hpeek, hpiece⟩

end Lookahead

end RowScope
