/-
Conditions that were written as JSON and read back.

A value is written without its kind, so the kind is guessed from the shape.  The guess is
wrong for a list of texts that is empty, and for no other value but a double: the list comes
back as one of integers.  Nothing that a condition does with a value tells the two lists
apart.

* `Filter.mapOperands` — a condition with other operands in their places;
* `Value.Stands`, `Operand.Stands` — one stands for the other in every condition;
* `Filter.sql_mapOperands`, `Filter.truth_mapOperands` — a condition with operands that stand
  for its own has its text and its outcomes;
* `Filter.ofJson_toJson_of_operands` — a condition comes back with its operands as they come
  back;
* `Filter.ofJson_toJson_eq_decoded` — so a condition without doubles comes back with its
  text and its outcomes, and as it was but for empty lists.

Design notes: what the tree of a condition keeps and what its operands keep are separate.
The inductions over the tree know of operands only that each is read back as some other one,
or stands for it; the shapes of values are looked at once, in `Value.ofJson_toJson` and
`Value.stands_decoded`.
-/
import RowScope.Filter.Codec
import RowScope.Filter.Sql
import RowScope.Proofs.Filter.Canonical
import RowScope.Proofs.Filter.Sameness

namespace RowScope

/-! ### Conditions with other operands -/

namespace Filter

mutual

/-- The condition with another operand in the place of each. -/
def mapOperands (g : Operand → Operand) : Filter → Filter
  | compare l c r => compare (g l) c (g r)
  | member o vs negated => member (g o) (vs.map g) negated
  | isNull o negated => isNull (g o) negated
  | like o pattern negated => like (g o) pattern negated
  | and fs => and (mapOperandsAll g fs)
  | or fs => or (mapOperandsAll g fs)
  | not f => not (mapOperands g f)
  | group f => group (mapOperands g f)
  | always => always
  | never => never

/-- The conditions of a list with another operand in the place of each. -/
def mapOperandsAll (g : Operand → Operand) : List Filter → List Filter
  | [] => []
  | f :: fs => mapOperands g f :: mapOperandsAll g fs

end

variable {g : Operand → Operand}

theorem mapOperandsAll_eq_map (fs : List Filter) :
    mapOperandsAll g fs = fs.map (mapOperands g) := by
  induction fs with
  | nil => rfl
  | cons f fs ih => rw [mapOperandsAll, ih, List.map_cons]

@[simp] theorem isOr_mapOperands (f : Filter) : (f.mapOperands g).isOr = f.isOr := by
  cases f with
  | _ => rfl

@[simp] theorem isJoined_mapOperands (f : Filter) : (f.mapOperands g).isJoined = f.isJoined := by
  cases f with
  | _ => rfl

end Filter

/-! ### Operands that stand for others -/

/-- Nothing that a condition does with a value tells `b` from `a`. -/
structure Value.Stands (b a : Value) : Prop where
  alike : b.Alike a
  elements : b.elements = a.elements
  matchesPattern : b.matchesPattern = a.matchesPattern

/-- Nothing that a condition does with an operand tells `o'` from `o`. -/
structure Operand.Stands (o' o : Operand) : Prop where
  sql : o'.sql = o.sql
  value : ∀ row, (o'.value row).Stands (o.value row)

theorem Value.Stands.refl (a : Value) : a.Stands a :=
  ⟨.refl a, rfl, rfl⟩

namespace Filter

variable {g : Operand → Operand} (hg : ∀ o, (g o).Stands o)

include hg

/-- A condition with operands that stand for its own has its text. -/
theorem sql_mapOperands (f : Filter) : (f.mapOperands g).sql = f.sql := by
  have hsql : Operand.sql ∘ g = Operand.sql := funext fun o => (hg o).sql
  induction f using tree_induction with
  | compare l c r => rw [mapOperands, sql, sql, (hg l).sql, (hg r).sql]
  | member o vs negated => rw [mapOperands, sql, sql, (hg o).sql, List.map_map, hsql]
  | isNull o negated => rw [mapOperands, sql, sql, (hg o).sql]
  | like o pattern negated => rw [mapOperands, sql, sql, (hg o).sql]
  | and fs ih =>
    rw [mapOperands, sql, sql, mapOperandsAll_eq_map, List.isEmpty_map, conjuncts_eq_map,
      conjuncts_eq_map, List.map_map]
    congr 2
    refine List.map_congr_left fun f hf => ?_
    rw [Function.comp_apply, isOr_mapOperands, ih f hf]
  | or fs ih =>
    rw [mapOperands, sql, sql, mapOperandsAll_eq_map, List.isEmpty_map, disjuncts_eq_map,
      disjuncts_eq_map, List.map_map]
    have hmap : fs.map (sql ∘ mapOperands g) = fs.map sql := List.map_congr_left ih
    rw [hmap]
  | not f ih => rw [mapOperands, sql, sql, isJoined_mapOperands, ih]
  | group f ih => rw [mapOperands, sql, sql, ih]
  | always => rfl
  | never => rfl

/-- A condition with operands that stand for its own has its outcome on every row. -/
theorem truth_mapOperands (f : Filter) (row : Row) :
    (f.mapOperands g).truth row = f.truth row := by
  induction f using tree_induction with
  | compare l c r =>
    rw [mapOperands, truth, truth]
    exact ((hg l).value row).alike.truth c ((hg r).value row).alike
  | member o vs negated =>
    have ho := (hg o).value row
    have helements : ((vs.map g).flatMap fun v => (v.value row).elements)
        = vs.flatMap fun v => (v.value row).elements := by
      rw [List.flatMap_map]
      exact List.flatMap_congr fun v _ => ((hg v).value row).elements
    have hequals : (g o |>.value row).equals = (o.value row).equals :=
      funext fun b => ho.alike.equals (.refl b)
    rw [mapOperands, truth, truth, helements, Value.among, Value.among, ho.alike.2, hequals]
  | isNull o negated => rw [mapOperands, truth, truth, ((hg o).value row).alike.2]
  | like o pattern negated => rw [mapOperands, truth, truth, ((hg o).value row).matchesPattern]
  | and fs ih =>
    rw [mapOperands, truth, truth, mapOperandsAll_eq_map, truths_eq_map, truths_eq_map,
      List.map_map]
    exact congrArg Truth.all (List.map_congr_left ih)
  | or fs ih =>
    rw [mapOperands, truth, truth, mapOperandsAll_eq_map, truths_eq_map, truths_eq_map,
      List.map_map]
    exact congrArg Truth.any (List.map_congr_left ih)
  | not f ih => rw [mapOperands, truth, truth, ih]
  | group f ih => rw [mapOperands, truth, truth, ih]
  | always => rfl
  | never => rfl

end Filter

/-! ### Reading what was written -/

namespace Value

/-- The value as it is read back: an empty list does not say what it was a list of. -/
def decoded : Value → Value
  | texts [] => ints []
  | v => v

theorem asInt64_ofInt64 (n : Int64) : (Json.ofInt64 n).asInt64 = .ok n := by
  rw [Json.ofInt64, Json.asInt64, toInt64?_toInt]

theorem ofItems_ofInt64 (ns : List Int64) : ofItems (ns.map .ofInt64) = .ok (ints ns) := by
  rw [ofItems, mapM_map_eq_ok fun n _ => asInt64_ofInt64 n, List.map_id']

/-- A list that starts with a text is no list of integers. -/
theorem ofItems_str (s : String) (ss : List String) :
    ofItems ((s :: ss).map .str) = .ok (texts (s :: ss)) := by
  have hints : ((s :: ss).map Json.str).mapM Json.asInt64
      = .error (.wrongKind "a 64-bit integer") := by
    rw [List.map_cons, List.mapM_cons]
    rfl
  have htexts : ((s :: ss).map Json.str).mapM Json.asText = .ok ((s :: ss).map id) :=
    mapM_map_eq_ok fun _ _ => rfl
  rw [ofItems, hints, htexts, List.map_id]

theorem ofJson_toJson {v : Value} (h : (Operand.literal v).isDouble = false) :
    ofJson v.toJson = .ok v.decoded := by
  cases v with
  | null => rfl
  | bool b => rfl
  | int n =>
    rw [toJson, Json.ofInt64, ofJson, toInt64?_toInt]
    rfl
  | float x => exact absurd h (by simp [Operand.isDouble])
  | text s => rfl
  | ints ns => exact ofItems_ofInt64 ns
  | texts ss =>
    cases ss with
    | nil => rfl
    | cons s ss => exact ofItems_str s ss

/-- An empty list has no elements, no order and the text of a null, whatever its kind. -/
theorem stands_decoded (v : Value) : v.decoded.Stands v := by
  match v with
  | texts [] =>
    refine ⟨⟨fun b => ⟨?_, ?_⟩, rfl⟩, rfl, rfl⟩
    · cases b with
      | _ => rfl
    · cases b with
      | _ => rfl
  | texts (s :: ss) => exact .refl _
  | null | bool _ | int _ | float _ | text _ | ints _ => exact .refl _

theorem sql_decoded (v : Value) : v.decoded.sql = v.sql := by
  match v with
  | texts [] => rfl
  | texts (s :: ss) => rfl
  | null | bool _ | int _ | float _ | text _ | ints _ => rfl

end Value

namespace Operand

/-- The operand as it is read back. -/
def decoded : Operand → Operand
  | column name => column name
  | literal v => literal v.decoded

theorem ofJson_toJson {o : Operand} (h : o.isDouble = false) : ofJson o.toJson = .ok o.decoded := by
  cases o with
  | column name => rfl
  | literal v =>
    show (Value.ofJson v.toJson).map literal = .ok (literal v.decoded)
    rw [Value.ofJson_toJson h]
    rfl

theorem stands_decoded (o : Operand) : o.decoded.Stands o := by
  cases o with
  | column name => exact ⟨rfl, fun _ => .refl _⟩
  | literal v => exact ⟨v.sql_decoded, fun _ => v.stands_decoded⟩

end Operand

theorem Comparison.ofJson_name (c : Comparison) : Comparison.ofJson (.str c.name) = .ok c := by
  cases c with
  | _ => rfl

namespace Filter

variable {g : Operand → Operand}

theorem toJsonList_eq_map (fs : List Filter) : toJsonList fs = fs.map toJson := by
  induction fs with
  | nil => rfl
  | cons f fs ih => rw [toJsonList, ih, List.map_cons]

theorem ofJsonList_eq_mapM (js : List Json) : ofJsonList js = js.mapM ofJson := by
  induction js with
  | nil => rfl
  | cons j js ih => rw [ofJsonList, ih, List.mapM_cons]

theorem ofJsonList_toJsonList {fs : List Filter}
    (h : ∀ f ∈ fs, ofJson f.toJson = .ok (f.mapOperands g)) :
    ofJsonList (toJsonList fs) = .ok (mapOperandsAll g fs) := by
  rw [ofJsonList_eq_mapM, toJsonList_eq_map, mapOperandsAll_eq_map, mapM_map_eq_ok h]

/-- A condition comes back with its operands as they come back. -/
theorem ofJson_toJson_of_operands {f : Filter}
    (h : ∀ o ∈ f.operands, Operand.ofJson o.toJson = .ok (g o)) :
    ofJson f.toJson = .ok (f.mapOperands g) := by
  induction f using tree_induction with
  | compare l c r =>
    have hl := h l (by simp [operands, leaves, leafOperands])
    have hr := h r (by simp [operands, leaves, leafOperands])
    show (do
      let left ← Operand.ofJson l.toJson
      let op ← Comparison.ofJson (.str c.name)
      let right ← Operand.ofJson r.toJson
      return compare left op right) = _
    rw [hl, hr, Comparison.ofJson_name]
    rfl
  | member o vs negated =>
    have ho := h o (by simp [operands, leaves, leafOperands])
    have hvs : (vs.map Operand.toJson).mapM Operand.ofJson = .ok (vs.map g) :=
      mapM_map_eq_ok fun v hv => h v (by simp [operands, leaves, leafOperands, hv])
    show (do
      let operand ← Operand.ofJson o.toJson
      let values ← (vs.map Operand.toJson).mapM Operand.ofJson
      return member operand values negated) = _
    rw [ho, hvs]
    rfl
  | isNull o negated =>
    show (do
      let operand ← Operand.ofJson o.toJson
      return isNull operand negated) = _
    rw [h o (by simp [operands, leaves, leafOperands])]
    rfl
  | like o pattern negated =>
    show (do
      let operand ← Operand.ofJson o.toJson
      return like operand pattern negated) = _
    rw [h o (by simp [operands, leaves, leafOperands])]
    rfl
  | and fs ih =>
    have hfs : ofJsonList (toJsonList fs) = .ok (mapOperandsAll g fs) :=
      ofJsonList_toJsonList fun f hf => ih f hf fun o ho =>
        h o (mem_operands_joined (j := .and).2 ⟨f, hf, ho⟩)
    rw [toJson, ofJson, hfs, mapOperands]
    rfl
  | or fs ih =>
    have hfs : ofJsonList (toJsonList fs) = .ok (mapOperandsAll g fs) :=
      ofJsonList_toJsonList fun f hf => ih f hf fun o ho =>
        h o (mem_operands_joined (j := .or).2 ⟨f, hf, ho⟩)
    rw [toJson, ofJson, hfs, mapOperands]
    rfl
  | not f ih =>
    rw [toJson, ofJson, ih h, mapOperands]
    rfl
  | group f ih =>
    rw [toJson, ofJson, ih h, mapOperands]
    rfl
  | always => rfl
  | never => rfl

/-- The condition as it is read back: its empty lists of texts have become lists of
integers. -/
def decoded (f : Filter) : Filter :=
  f.mapOperands Operand.decoded

/-- **A condition without doubles that was written as JSON is read back, and as the same tree
but for its empty lists of texts, which come back as empty lists of integers.  What is read
back has the text of the condition and its outcome on every row.** -/
theorem ofJson_toJson_eq_decoded {f : Filter} (h : f.isDoubleFree = true) :
    ofJson f.toJson = .ok f.decoded ∧ f.decoded.sql = f.sql ∧
      ∀ row, f.decoded.truth row = f.truth row := by
  have hoperands : ∀ o ∈ f.operands, Operand.ofJson o.toJson = .ok o.decoded := by
    intro o ho
    have hdouble := List.all_eq_true.1 h o ho
    exact Operand.ofJson_toJson (by simpa using hdouble)
  exact ⟨ofJson_toJson_of_operands hoperands, sql_mapOperands Operand.stands_decoded f,
    truth_mapOperands Operand.stands_decoded f⟩

/-- Of two lists under a negation only the empty one comes back as another one. -/
theorem ofJson_toJson_of_two_lists :
    ofJson (toJson (.not (.member (.column "a") [.literal (.texts ["x"]), .literal (.texts [])]
        true)))
      = .ok (.not (.member (.column "a") [.literal (.texts ["x"]), .literal (.ints [])] true)) := by
  refine (ofJson_toJson_eq_decoded ?_).1
  decide

end Filter

end RowScope
