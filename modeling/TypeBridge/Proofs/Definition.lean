import TypeBridge.Proofs.GenericState

/-!
# Bound types and their definitions

In a coherent registry the definition of a bound type is an unbound generic type, of the same kind and
under the same name (`IsDefinition`), and following definitions commutes with following the types
around. A type without definition has no bound type around it (`isBound_of_mem_enclosing`). For
everything that constructions build, this is `generic_state_consistent`.
-/

namespace TypeBridge.Registry

variable {r : Registry} {h u o : Handle} {d e : Declared Handle}

namespace Coherent

theorem of_declared? (hr : r.Coherent) (hd : r.declared? h = some d) :
    ∃ t, r.get? h = some t ∧ d.Coherent r t.form.kind t.isValue := by
  obtain ⟨t, ht, htd⟩ := exists_get?_of_declared? hd
  exact ⟨t, ht, hr.declared ht htd⟩

theorem declared?_definition (hr : r.Coherent) (hd : r.declared? h = some d)
    (hu : d.definition = some u) : r.declared? u = some (d.unbind r.unboundForm) := by
  obtain ⟨t, -, hcoh⟩ := hr.of_declared? hd
  obtain ⟨t', ht', -, -, hdecl⟩ := hcoh.definition u hu
  rw [declared?_of_get? ht', hdecl]

/-- What is bound is generic, and so is its definition: if not through parameters of their own, then
through the types around them, which are bound and definition again. -/
theorem isGeneric_of_definition? (hr : r.Coherent) (hu : r.definition? h = some u) :
    r.isGeneric h = true ∧ r.isGeneric u = true := by
  induction h using Nat.strongRecOn generalizing u with
  | ind h ih =>
    obtain ⟨d, hd, hdu⟩ := exists_declared?_of_definition? hu
    obtain ⟨t, -, hcoh⟩ := hr.of_declared? hd
    have hwf := hr.toWellFormed
    have hdef := hr.declared?_definition hd hdu
    rw [isGeneric_of_declared? hwf hd, isGeneric_of_declared? hwf hdef]
    have hbound : d.isBound = true := by rw [Declared.isBound, hdu, Option.isSome_some]
    rcases hcoh.bound hbound with harity | ⟨o, ho, hob⟩
    · simp [Declared.unbind, harity]
    · obtain ⟨uo, huo⟩ := Option.isSome_iff_exists.1 hob
      obtain ⟨hgo, hguo⟩ := ih o (hwf.outer_lt hd ho) huo
      simp [Declared.unbind, ho, unboundForm_of_definition? huo, hgo, hguo]

theorem isBound_of_mem_enclosing (hr : r.Coherent) (hu : r.definition? h = none)
    (he : e ∈ r.enclosing h) : e.isBound = false := by
  induction h using Nat.strongRecOn with
  | ind h ih =>
    have hbound : ∀ d, r.declared? h = some d → d.isBound = false := by
      intro d hd
      rw [Declared.isBound, ← definition?_of_declared? hd, hu, Option.isSome_none]
    rcases (mem_enclosing_iff hr.toWellFormed).1 he with hd | ⟨o, ho, he⟩
    · exact hbound e hd
    · obtain ⟨d, hd, hdo⟩ := Option.bind_eq_some_iff.1 ho
      obtain ⟨t, -, hcoh⟩ := hr.of_declared? hd
      exact ih o (hr.outer_lt hd hdo) (hcoh.unbound (hbound d hd) o hdo) he

end Coherent

/-- `u` is the type `h` with nothing bound in it. -/
structure IsDefinition (r : Registry) (u h : Handle) : Prop where
  earlier : u < h
  kind : r.kind? u = r.kind? h
  isValue : r.isValue u = r.isValue h
  declared : ∃ d e, r.declared? h = some d ∧ r.declared? u = some e ∧
    e.namespaceName = d.namespaceName ∧ e.name = d.name ∧ e.arity = d.arity
  unbound : r.isUnbound u = true
  noDefinition : r.definition? u = none
  noArguments : r.arguments u = []
  generic : r.isGeneric h = true
  /-- One is inside another type when the other is: in its unbound form. -/
  outer : r.outer? u = (r.outer? h).map r.unboundForm

theorem Coherent.isDefinition (hr : r.Coherent) (hu : r.definition? h = some u) :
    r.IsDefinition u h := by
  obtain ⟨d, hd, hdu⟩ := exists_declared?_of_definition? hu
  obtain ⟨t, ht, hcoh⟩ := hr.of_declared? hd
  obtain ⟨t', ht', hkind, hvalue, -⟩ := hcoh.definition u hdu
  have hdef := hr.declared?_definition hd hdu
  have hnone : r.definition? u = none := definition?_of_declared? hdef
  obtain ⟨hgh, hgu⟩ := hr.isGeneric_of_definition? hu
  refine
    { earlier := definition?_lt hr.toWellFormed hu
      kind := by rw [kind?, kind?, ht, ht', Option.map_some, Option.map_some, hkind]
      isValue := by rw [Registry.isValue, Registry.isValue, ht, ht', Option.any_some,
        Option.any_some, hvalue]
      declared := ⟨d, _, hd, hdef, rfl, rfl, rfl⟩
      unbound := ?_
      noDefinition := hnone
      noArguments := arguments_of_declared? hdef
      generic := hgh
      outer := by rw [outer?_of_declared? hd, outer?_of_declared? hdef]; rfl }
  have hdecl : (r.get? u).bind (·.form.declared?) = some (d.unbind r.unboundForm) := hdef
  simp only [isUnbound, hdecl, hgu, Declared.isBound, Declared.unbind, Option.isSome_none,
    Bool.not_false, Bool.and_true]

/-- Whatever is built without raw descriptors is consistent about what is bound. The definition of a
bound type is the unbound generic type that it was made from. Type arguments are bound for all
parameters at once, and only beside a definition. And a type without definition has no bound type
around it. -/
theorem generic_state_consistent (hr : r.Built) (h : Handle) :
    (∀ u, r.definition? h = some u → r.IsDefinition u h) ∧
    (∀ d, r.declared? h = some d → d.arguments ≠ [] →
      d.arguments.length = d.arity ∧ (r.definition? h).isSome = true) ∧
    (r.definition? h = none → ∀ d ∈ r.enclosing h, d.isBound = false) := by
  have hcoh := hr.coherent
  refine ⟨fun u hu => hcoh.isDefinition hu, fun d hd hargs => ?_, fun hu d hd =>
    hcoh.isBound_of_mem_enclosing hu hd⟩
  obtain ⟨t, -, hd'⟩ := hcoh.of_declared? hd
  obtain ⟨hlength, hbound⟩ := hd'.arguments hargs
  rw [definition?_of_declared? hd]
  exact ⟨hlength, hbound⟩

/-- A generic type inside a bound one, bound in turn: its definition is the generic type inside the
definition around. -/
theorem generic_state_consistent_nested :
    let r := ofConstructions [.builtin .int32, .generic "Lib" "Box" 1 false, .instantiate 1 [0],
      .nested 2 "Item" 1 true, .instantiate 4 [0]]
    r.Built ∧ r.definition? 5 = some 3 ∧ r.IsDefinition 3 5 ∧
      r.outer? 5 = some 2 ∧ r.outer? 3 = some 1 := by
  intro r
  have hr : r.Built := ⟨_, by decide, rfl⟩
  have hdef : r.definition? 5 = some 3 := by decide +kernel
  have houter : r.outer? 5 = some 2 := by decide +kernel
  obtain ⟨hdefined, -, -⟩ := generic_state_consistent hr 5
  have h₃ := hdefined 3 hdef
  refine ⟨hr, hdef, h₃, houter, ?_⟩
  rw [h₃.outer, houter, Option.map_some]
  decide +kernel

end TypeBridge.Registry
