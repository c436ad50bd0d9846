import Mathlib.Data.List.Basic
import Mathlib.Tactic.Common
import TypeBridge.Proofs.Dependency
import TypeBridge.Source.Generic

/-!
# Declared types

What the declaration of a type says, read through its handle: the type around it (`outer?`), the
type with nothing bound in it (`unboundForm`) and all declarations around it (`enclosing`). The readers
that follow the types around are given by one equation each, in which the bounds of the recursion are
gone.
-/

namespace TypeBridge

inductive Form.Kind
  | builtin | named | array | parameter | delegate | enumeration | record | nullable
deriving DecidableEq

def Form.kind {ρ : Type} : Form ρ → Form.Kind
  | .builtin _ => .builtin
  | .named _ => .named
  | .array _ => .array
  | .parameter _ => .parameter
  | .delegate .. => .delegate
  | .enumeration _ => .enumeration
  | .record _ => .record
  | .nullable _ => .nullable

namespace Form
variable {ρ : Type} {form : Form ρ} {d : Declared ρ}

theorem eq_named_of_kind (hk : form.kind = .named) (hd : form.declared? = some d) :
    form = .named d := by
  cases form <;> simp only [kind, reduceCtorEq] at hk
  exact congrArg named (Option.some.inj hd)

end Form

namespace Declared
variable {ρ : Type}

/-- The declaration with nothing bound in it, where `unbound` does the same to the type around. -/
def unbind (unbound : ρ → ρ) (d : Declared ρ) : Declared ρ :=
  { d with outer := d.outer.map unbound, arguments := [], definition := none }

/-- The declaration of a type inside another, whose declaration is `around`. -/
def inside (around : Declared ρ) (outer : ρ) (name : String) (arity : Nat) (definition : Option ρ) :
    Declared ρ :=
  { namespaceName := around.namespaceName, name, outer := some outer, arity, definition }

theorem references_inside (around : Declared ρ) (outer : ρ) (name : String) (arity : Nat)
    (definition : Option ρ) :
    (around.inside outer name arity definition).references = outer :: definition.toList :=
  rfl

theorem mem_references_iff {d : Declared ρ} {c : ρ} :
    c ∈ d.references ↔ c ∈ d.arguments ∨ d.outer = some c ∨ d.definition = some c := by
  simp [references]

theorem mem_references_of_outer {d : Declared ρ} {o : ρ} (ho : d.outer = some o) :
    o ∈ d.references := by
  simp [references, ho]

theorem mem_references_of_definition {d : Declared ρ} {u : ρ} (hu : d.definition = some u) :
    u ∈ d.references := by
  simp [references, hu]

end Declared

namespace Registry

variable {r r' : Registry} {h u o : Handle} {t : Descriptor Handle} {d : Declared Handle}

def declared? (r : Registry) (h : Handle) : Option (Declared Handle) :=
  (r.get? h).bind (·.form.declared?)

def kind? (r : Registry) (h : Handle) : Option Form.Kind :=
  (r.get? h).map (·.form.kind)

def outer? (r : Registry) (h : Handle) : Option Handle :=
  (r.declared? h).bind (·.outer)

/-- The definition of a bound type, and every other type itself. -/
def unboundForm (r : Registry) (h : Handle) : Handle :=
  (r.definition? h).getD h

/-- The declarations of a type and of the types around it, the outermost first. -/
def enclosing (r : Registry) : Handle → List (Declared Handle) :=
  r.fold [] fun _ t earlier =>
    match t.form.declared? with
    | some d => d.outer.elim [] earlier ++ [d]
    | none => []

theorem form?_of_get? (ht : r.get? h = some t) : r.form? h = some t.form := by
  rw [form?, ht, Option.map_some]

theorem lt_size_of_form? {form : Form Handle} (hf : r.form? h = some form) : h < r.size := by
  obtain ⟨t, ht, -⟩ := form?_eq_some hf
  exact get?_eq_some_lt ht

theorem declared?_of_get? (ht : r.get? h = some t) : r.declared? h = t.form.declared? := by
  rw [declared?, ht, Option.bind_some]

theorem declared?_of_named (hf : r.form? h = some (.named d)) : r.declared? h = some d := by
  obtain ⟨t, ht, hform⟩ := form?_eq_some hf
  rw [declared?_of_get? ht, hform]
  rfl

theorem exists_get?_of_declared? (hd : r.declared? h = some d) :
    ∃ t, r.get? h = some t ∧ t.form.declared? = some d :=
  Option.bind_eq_some_iff.1 hd

theorem definition?_eq_bind (r : Registry) (h : Handle) :
    r.definition? h = (r.declared? h).bind (·.definition) := by
  unfold definition? declared? Form.definition?
  cases r.get? h <;> rfl

theorem definition?_of_declared? (hd : r.declared? h = some d) : r.definition? h = d.definition := by
  rw [definition?_eq_bind, hd, Option.bind_some]

theorem exists_declared?_of_definition? (hu : r.definition? h = some u) :
    ∃ d, r.declared? h = some d ∧ d.definition = some u := by
  rw [definition?_eq_bind] at hu
  exact Option.bind_eq_some_iff.1 hu

theorem outer?_of_declared? (hd : r.declared? h = some d) : r.outer? h = d.outer := by
  rw [outer?, hd, Option.bind_some]

theorem arguments_of_declared? (hd : r.declared? h = some d) : r.arguments h = d.arguments := by
  obtain ⟨⟨form, isValue⟩, ht, htd⟩ := exists_get?_of_declared? hd
  unfold arguments
  rw [ht]
  cases form <;> simp only [Form.declared?, reduceCtorEq, Option.some.injEq] at htd <;>
    subst htd <;> rfl

theorem unboundForm_of_definition? (hu : r.definition? h = some u) : r.unboundForm h = u := by
  rw [unboundForm, hu, Option.getD_some]

theorem unboundForm_of_definition?_eq_none (hu : r.definition? h = none) : r.unboundForm h = h := by
  rw [unboundForm, hu, Option.getD_none]

theorem WellFormed.declared_references_lt (hr : r.WellFormed) (hd : r.declared? h = some d) :
    ∀ c ∈ d.references, c < h := by
  obtain ⟨t, ht, htd⟩ := exists_get?_of_declared? hd
  exact fun c hc => hr.references_lt ht c (Form.references_of_declared? htd hc)

theorem WellFormed.outer_lt (hr : r.WellFormed) (hd : r.declared? h = some d)
    (ho : d.outer = some o) : o < h :=
  hr.declared_references_lt hd o (Declared.mem_references_of_outer ho)

theorem isGeneric_of_declared? (hr : r.WellFormed) (hd : r.declared? h = some d) :
    r.isGeneric h = (decide (0 < d.arity) || d.outer.any r.isGeneric) := by
  obtain ⟨⟨form, isValue⟩, ht, htd⟩ := exists_get?_of_declared? hd
  have hstep : r.isGeneric h =
      form.isGeneric fun c => if c < h then r.isGeneric c else false := fold_of_get? ht
  have hform : ∀ outerIsGeneric, form.isGeneric outerIsGeneric =
      (decide (0 < d.arity) || d.outer.any outerIsGeneric) := by
    intro outerIsGeneric
    cases form <;> simp only [Form.declared?, reduceCtorEq, Option.some.injEq] at htd <;>
      subst htd <;> rfl
  rw [hstep, hform]
  cases ho : d.outer with
  | none => rfl
  | some o => rw [Option.any_some, Option.any_some, if_pos (hr.outer_lt hd ho)]

theorem enclosing_of_declared? (hr : r.WellFormed) (hd : r.declared? h = some d) :
    r.enclosing h = d.outer.elim [] r.enclosing ++ [d] := by
  obtain ⟨t, ht, htd⟩ := exists_get?_of_declared? hd
  rw [enclosing, fold_of_get? ht]
  simp only [htd]
  cases ho : d.outer with
  | none => rfl
  | some o => simp only [Option.elim_some, if_pos (hr.outer_lt hd ho)]

theorem enclosing_of_declared?_eq_none (hd : r.declared? h = none) : r.enclosing h = [] := by
  cases ht : r.get? h with
  | none => rw [enclosing, fold_of_get?_eq_none ht]
  | some t =>
    rw [declared?_of_get? ht] at hd
    rw [enclosing, fold_of_get? ht, hd]

theorem mem_enclosing_iff (hr : r.WellFormed) {e : Declared Handle} : e ∈ r.enclosing h ↔
    r.declared? h = some e ∨ ∃ o, r.outer? h = some o ∧ e ∈ r.enclosing o := by
  cases hd : r.declared? h with
  | none => simp [enclosing_of_declared?_eq_none hd, outer?, hd]
  | some d =>
    rw [enclosing_of_declared? hr hd, outer?_of_declared? hd]
    cases ho : d.outer <;> simp [or_comm, eq_comm]

namespace Extends
variable (hx : r.Extends r')
include hx

theorem form? (hh : h < r.size) : r'.form? h = r.form? h := by
  rw [Registry.form?, Registry.form?, hx.get? hh]

theorem form?_of_some {form : Form Handle} (hf : r.form? h = some form) : r'.form? h = some form := by
  rw [hx.form? (lt_size_of_form? hf), hf]

theorem definition? (hh : h < r.size) : r'.definition? h = r.definition? h := by
  rw [Registry.definition?, Registry.definition?, hx.get? hh]

theorem unboundForm (hh : h < r.size) : r'.unboundForm h = r.unboundForm h := by
  rw [Registry.unboundForm, Registry.unboundForm, hx.definition? hh]

end Extends
end Registry

end TypeBridge
