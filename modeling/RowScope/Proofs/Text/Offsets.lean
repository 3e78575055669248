/-
Offsets into a text.

* `byteLength_toList` — the bytes that are counted are those of the encoding;
* `isValid_iff` — the offsets between characters are the lengths of the starts of a text;
* `slice_eq_some_iff` — a span holds a part of a text if it is where that part stands;
* `Place.key_lt_next` — every character leads to a later place;
* `Place.strictMonoOn_ofOffset` — of two offsets between characters, the place of the later one
  comes later.

Design notes: an offset counts bytes and a place counts characters, so both are followed along
the text before them, one character after the other.  Each character leads to a later place, a
newline too, and that is why no two offsets share one.
-/
import Mathlib.Data.Prod.Lex
import Mathlib.Order.Monotone.Defs
import RowScope.Proofs.Text.Places

namespace RowScope

/-! ### Parts of a text -/

section Parts

variable {cs part rest : List Char}

theorem byteLength_toList (s : String) : byteLength s.toList = s.utf8ByteSize := by
  suffices h : ∀ cs : List Char, byteLength cs = (String.ofList cs).utf8ByteSize by
    rw [h, String.ofList_toList]
  intro cs
  induction cs with
  | nil => rfl
  | cons c cs ih =>
    rw [byteLength_cons, ih, String.ofList_cons, String.utf8ByteSize_append,
      String.utf8ByteSize_singleton]

/-- An offset is between characters, or at an end, if a part of the text ends there. -/
theorem isValid_iff {s : String} {n : Nat} :
    (String.Pos.Raw.mk n).IsValid s ↔
      ∃ before after, s.toList = before ++ after ∧ n = byteLength before := by
  rw [String.Pos.Raw.isValid_iff_exists_append]
  constructor
  · rintro ⟨before, after, rfl, hn⟩
    refine ⟨before.toList, after.toList, String.toList_append, ?_⟩
    rw [byteLength_toList]
    exact congrArg String.Pos.Raw.byteIdx hn
  · rintro ⟨before, after, hs, rfl⟩
    refine ⟨String.ofList before, String.ofList after, ?_, ?_⟩
    · rw [← String.ofList_append, ← hs, String.ofList_toList]
    · have hsize := byteLength_toList (String.ofList before)
      rw [String.toList_ofList] at hsize
      rw [hsize]
      rfl

theorem takeBytes_cons (n : Nat) (c : Char) (cs : List Char) :
    takeBytes (c.utf8Size + n) (c :: cs) = (takeBytes n cs).map (c :: ·) := by
  obtain ⟨k, hk, hrest⟩ := exists_utf8Size_add c n
  rw [hk, takeBytes, if_pos (by omega), hrest]

theorem dropBytes_cons (n : Nat) (c : Char) (cs : List Char) :
    dropBytes (c.utf8Size + n) (c :: cs) = dropBytes n cs := by
  obtain ⟨k, hk, hrest⟩ := exists_utf8Size_add c n
  rw [hk, dropBytes, if_pos (by omega), hrest]

theorem takeBytes_eq_some_iff {n : Nat} :
    takeBytes n cs = some part ↔ ∃ after, cs = part ++ after ∧ n = byteLength part := by
  constructor
  · intro h
    fun_induction takeBytes n cs generalizing part with
    | case1 cs =>
      obtain rfl := Option.some.inj h
      exact ⟨cs, rfl, rfl⟩
    | case2 => cases h
    | case3 n c cs hc ih =>
      obtain ⟨part, hpart, rfl⟩ := Option.map_eq_some_iff.1 h
      obtain ⟨after, rfl, hn⟩ := ih hpart
      refine ⟨after, rfl, ?_⟩
      rw [byteLength_cons]
      omega
    | case4 => cases h
  · rintro ⟨after, rfl, rfl⟩
    induction part with
    | nil => rw [byteLength_nil, takeBytes]
    | cons c part ih => rw [byteLength_cons, List.cons_append, takeBytes_cons, ih, Option.map_some]

theorem dropBytes_eq_some_iff {n : Nat} :
    dropBytes n cs = some rest ↔ ∃ before, cs = before ++ rest ∧ n = byteLength before := by
  constructor
  · intro h
    fun_induction dropBytes n cs with
    | case1 cs =>
      obtain rfl := Option.some.inj h
      exact ⟨[], rfl, rfl⟩
    | case2 => cases h
    | case3 n c cs hc ih =>
      obtain ⟨before, rfl, hn⟩ := ih h
      refine ⟨c :: before, rfl, ?_⟩
      rw [byteLength_cons]
      omega
    | case4 => cases h
  · rintro ⟨before, rfl, rfl⟩
    induction before with
    | nil => rw [byteLength_nil, dropBytes, List.nil_append]
    | cons c before ih => rw [byteLength_cons, List.cons_append, dropBytes_cons, ih]

/-- A span holds a part of a text if it is where that part stands. -/
theorem slice_eq_some_iff {span : Span} :
    slice cs span = some part ↔ ∃ before after, cs = before ++ part ++ after ∧
      span = ⟨byteLength before, byteLength (before ++ part)⟩ := by
  obtain ⟨start, stop⟩ := span
  unfold slice Span.length
  constructor
  · intro h
    split at h
    · next hle =>
      obtain ⟨rest, hrest, hpart⟩ := Option.bind_eq_some_iff.1 h
      obtain ⟨before, rfl, rfl⟩ := dropBytes_eq_some_iff.1 hrest
      obtain ⟨after, rfl, hlength⟩ := takeBytes_eq_some_iff.1 hpart
      refine ⟨before, after, (List.append_assoc _ _ _).symm, ?_⟩
      rw [Span.mk.injEq, byteLength_append]
      exact ⟨rfl, by dsimp only at hle hlength; omega⟩
    · cases h
  · rintro ⟨before, after, rfl, hspan⟩
    obtain ⟨rfl, rfl⟩ := Span.mk.inj hspan
    have hdrop : dropBytes (byteLength before) (before ++ part ++ after) = some (part ++ after) :=
      dropBytes_eq_some_iff.2 ⟨before, List.append_assoc _ _ _, rfl⟩
    rw [if_pos (by simp), hdrop, Option.bind_some]
    exact takeBytes_eq_some_iff.2 ⟨after, rfl, by simp⟩

theorem stop_of_slice {span : Span} (h : slice cs span = some part) :
    span.stop = span.start + byteLength part ∧ span.stop ≤ byteLength cs := by
  obtain ⟨before, after, rfl, rfl⟩ := slice_eq_some_iff.1 h
  refine ⟨byteLength_append before part, ?_⟩
  rw [byteLength_append _ after]
  exact Nat.le_add_right _ _

/-- A span that holds a part of a text starts and ends between characters. -/
theorem isValid_of_slice {source : String} {span : Span}
    (h : slice source.toList span = some part) :
    (String.Pos.Raw.mk span.start).IsValid source ∧
      (String.Pos.Raw.mk span.stop).IsValid source := by
  obtain ⟨before, after, hsource, rfl⟩ := slice_eq_some_iff.1 h
  exact ⟨isValid_iff.2 ⟨before, part ++ after, by rw [hsource, List.append_assoc], rfl⟩,
    isValid_iff.2 ⟨before ++ part, after, hsource, rfl⟩⟩

end Parts

/-! ### Places of offsets -/

namespace Place

variable {p : Place} {part : List Char}

/-- Places in their order: by line, and by column on a line. -/
def key (p : Place) : Nat ×ₗ Nat :=
  toLex (p.line, p.column)

/-- Every character leads to a later place. -/
theorem key_lt_next (p : Place) (c : Char) : p.key < (p.next c).key := by
  unfold key next
  rw [Prod.Lex.toLex_lt_toLex]
  split
  · exact .inl (Nat.lt_succ_self _)
  · exact .inr ⟨rfl, Nat.lt_succ_self _⟩

theorem key_le_foldl_next (p : Place) (cs : List Char) : p.key ≤ (cs.foldl next p).key := by
  induction cs generalizing p with
  | nil => exact le_refl _
  | cons c cs ih => exact (p.key_lt_next c).le.trans (ih (p.next c))

theorem key_lt_foldl_next (h : part ≠ []) : p.key < (part.foldl next p).key := by
  obtain ⟨c, cs, rfl⟩ := List.exists_cons_of_ne_nil h
  exact (p.key_lt_next c).trans_le (key_le_foldl_next (p.next c) cs)

/-- **The line and the column of an offset determine it**: of two offsets between characters, the
later one has the later place.  The line is one more than the number of newlines before the offset,
and the column is one more than the number of characters between the last newline, or the start of
the text, and the offset. -/
theorem strictMonoOn_ofOffset (source : String) :
    StrictMonoOn (fun n => (ofOffset source.toList n).key)
      {n | (String.Pos.Raw.mk n).IsValid source} ∧
    ∀ before after : String, source = before ++ after →
      ofOffset source.toList before.utf8ByteSize
        = ⟨before.toList.count '\n' + 1,
          (before.toList.rtakeWhile (· ≠ '\n')).length + 1⟩ := by
  constructor
  · intro m hm n hn hlt
    obtain ⟨before, rest, hsource, rfl⟩ := isValid_iff.1 hm
    obtain ⟨upTo, after, hsource', rfl⟩ := isValid_iff.1 hn
    -- what is before the later offset goes on after what is before the other one
    obtain ⟨part, rfl, rfl⟩ : ∃ part, upTo = before ++ part ∧ rest = part ++ after := by
      rcases List.append_eq_append_iff.1 (hsource.symm.trans hsource') with h | ⟨part, rfl, -⟩
      · exact h
      · rw [byteLength_append] at hlt
        omega
    have hpart : part ≠ [] := by
      rintro rfl
      rw [List.append_nil] at hlt
      exact lt_irrefl _ hlt
    show (ofOffset source.toList _).key < (ofOffset source.toList _).key
    rw [hsource', ofOffset_byteLength, List.append_assoc, ofOffset_byteLength, List.foldl_append]
    exact key_lt_foldl_next hpart
  · rintro before after rfl
    rw [← byteLength_toList, String.toList_append, ofOffset_byteLength, foldl_next]

/-- Before a newline, after it and at the end of a text with a character of two bytes. -/
theorem strictMonoOn_ofOffset_lines :
    let source := "é = 1\n\nAND b"
    (ofOffset source.toList 6).key < (ofOffset source.toList 7).key ∧
    (ofOffset source.toList 7).key < (ofOffset source.toList 13).key ∧
    ofOffset source.toList 13 = ⟨3, 6⟩ := by
  intro source
  have hvalid (before after : String) (h : source = before ++ after) :
      (String.Pos.Raw.mk before.utf8ByteSize).IsValid source :=
    String.Pos.Raw.isValid_iff_exists_append.2 ⟨before, after, h, rfl⟩
  have hsix : (String.Pos.Raw.mk 6).IsValid source := hvalid "é = 1" "\n\nAND b" rfl
  have hseven : (String.Pos.Raw.mk 7).IsValid source := hvalid "é = 1\n" "\nAND b" rfl
  have hend : (String.Pos.Raw.mk 13).IsValid source := hvalid source "" rfl
  have hplace := (strictMonoOn_ofOffset source).2 source "" rfl
  exact ⟨(strictMonoOn_ofOffset source).1 hsix hseven (by decide),
    (strictMonoOn_ofOffset source).1 hseven hend (by decide), hplace.trans (by decide)⟩

end Place

end RowScope
