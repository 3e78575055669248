/-
Values of placeholders.

* `Binding.sql` — the text that a binding puts into a fragment;
* `Template.fill` — a template rendered with layers of bindings;
* `Template.condition` — the condition that the rendered text spells.

Design notes: a placeholder without a binding makes the whole fragment deny every
row, so a missing binding never widens what is granted.
-/
import RowScope.Fragment.Reader
import RowScope.KeyMap
import RowScope.Template.Basic

namespace RowScope

/-- What a placeholder stands for. -/
inductive Binding where
  -- A column, written as it is.
  | column (name : String)
  -- A value, written as a literal.
  | value (v : Value)
  -- Several values, written as a sequence of literals.
  | values (vs : List Value)
deriving DecidableEq

/-- Bindings by name. -/
abbrev Bindings := KeyMap String Binding

/-- The text of a binding; without any value it is `missing`. -/
def Binding.sql (missing : String) : Binding → String
  | column name => name
  | value v => if v.isEmptyList then missing else v.sql
  | values vs => if vs.isEmpty then missing else ", ".intercalate (vs.map Value.sql)

/-- The binding of a name in the first layer that has one. -/
def Bindings.first? (layers : List Bindings) (name : String) : Option Binding :=
  layers.findSome? fun layer => layer.find? name

namespace Template

/-- A template rendered with layers of bindings. -/
def fill (t : Template) (missing : String) (layers : List Bindings) : Rendering :=
  t.render (fun name => (Bindings.first? layers name).map (Binding.sql missing)) missing

/-- The condition that a template spells with layers of bindings.  No row meets it
if a placeholder has no binding. -/
def condition (t : Template) (missing : String) (layers : List Bindings) :
    Except Diagnostic Filter :=
  let r := t.fill missing layers
  if r.isComplete then Filter.parse r.text else .ok .never

end Template

end RowScope
