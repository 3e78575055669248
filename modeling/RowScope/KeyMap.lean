/-
Finite maps.

A map is a list of entries with distinct keys, in the order in which the keys were
last given a value.

* `KeyMap.find?_insert` — what a map holds after an entry is put in;
* `KeyMap.find?_restrict` — what is left of a map on some of its keys.
-/

namespace RowScope

/-- A finite map from keys to values. -/
structure KeyMap (κ α : Type) where
  entries : List (κ × α)
  nodup : (entries.map Prod.fst).Nodup

namespace KeyMap

variable {κ α : Type} [DecidableEq κ]

def empty : KeyMap κ α := ⟨[], List.nodup_nil⟩

/-- The value of a key. -/
def find? (m : KeyMap κ α) (k : κ) : Option α :=
  m.entries.lookup k

def contains (m : KeyMap κ α) (k : κ) : Bool :=
  (m.find? k).isSome

def keys (m : KeyMap κ α) : List κ :=
  m.entries.map Prod.fst

def size (m : KeyMap κ α) : Nat :=
  m.entries.length

/-- The entries whose keys satisfy `p`. -/
def restrict (m : KeyMap κ α) (p : κ → Bool) : KeyMap κ α where
  entries := m.entries.filter fun e => p e.1
  nodup := m.nodup.sublist (List.filter_sublist.map _)

/-- The map with a value for a key, in place of the value that it had. -/
def insert (m : KeyMap κ α) (k : κ) (a : α) : KeyMap κ α where
  entries := (m.restrict (· != k)).entries ++ [(k, a)]
  nodup := by
    simp only [List.map_append, List.map_cons, List.map_nil]
    refine List.nodup_append.2 ⟨(m.restrict _).nodup, by simp, ?_⟩
    simp only [restrict, List.mem_map, List.mem_filter, List.mem_singleton]
    rintro _ ⟨e, ⟨-, he⟩, rfl⟩ _ rfl
    simpa using he

/-- The map of some entries; of entries with one key the last counts. -/
def ofList (es : List (κ × α)) : KeyMap κ α :=
  es.foldl (fun m e => m.insert e.1 e.2) empty

theorem lookup_filter (es : List (κ × α)) (p : κ → Bool) (k : κ) :
    (es.filter fun e => p e.1).lookup k = if p k then es.lookup k else none := by
  induction es with
  | nil => simp
  | cons e es ih =>
    obtain ⟨k', a⟩ := e
    by_cases hp : p k'
    · rw [List.filter_cons_of_pos (by exact hp), List.lookup_cons, List.lookup_cons, ih]
      by_cases hk : k = k'
      · subst hk
        simp [hp]
      · simp [beq_eq_false_iff_ne.2 hk]
    · rw [List.filter_cons_of_neg (by exact hp), ih, List.lookup_cons]
      by_cases hk : k = k'
      · subst hk
        simp [hp]
      · simp [beq_eq_false_iff_ne.2 hk]

theorem lookup_append (es fs : List (κ × α)) (k : κ) :
    (es ++ fs).lookup k = (es.lookup k).or (fs.lookup k) := by
  induction es with
  | nil => simp
  | cons e es ih =>
    obtain ⟨k', a⟩ := e
    by_cases hk : k = k'
    · simp [hk]
    · simp [List.lookup_cons, beq_eq_false_iff_ne.2 hk, ih]

theorem find?_restrict (m : KeyMap κ α) (p : κ → Bool) (k : κ) :
    (m.restrict p).find? k = if p k then m.find? k else none :=
  lookup_filter m.entries p k

theorem find?_insert (m : KeyMap κ α) (k : κ) (a : α) (k' : κ) :
    (m.insert k a).find? k' = if k' = k then some a else m.find? k' := by
  show ((m.restrict (· != k)).entries ++ [(k, a)]).lookup k' = _
  rw [lookup_append]
  have h := find?_restrict m (· != k) k'
  unfold find? at h
  rw [h]
  by_cases hk : k' = k
  · simp [hk]
  · simp [hk, List.lookup_cons, beq_eq_false_iff_ne.2 hk, find?]

end KeyMap

end RowScope
