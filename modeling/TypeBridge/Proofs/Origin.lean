import TypeBridge.Proofs.GenericState

/-!
# Where types come from

A registry that is built without raw descriptors holds only what some construction has put there, made
from what was there before. `Descriptor.Origin` lists the ways, with all that the construction has read:
the type around, its definition, the declaration that was bound. What is there stays there, so origins
stay too (`Origin.mono`), and `Built.origin` gives one for every type.

`Declared.Coherent` says that what is bound in a declaration fits together. Origins say more, that it is
bound in one of a few ways: without arguments only by the type around (`Built.isBound_iff`), and to the
generic type of optional values never (`Built.arguments_of_isNullable`).
-/

namespace TypeBridge

/-- How a descriptor comes into a registry without being raw. What it is made from is in the registry. -/
inductive Descriptor.Origin (r : Registry) (t : Descriptor Handle) : Prop
  /-- A type that is not declared. -/
  | undeclared (ht : t.form.declared? = none)
  /-- A declaration with nothing around it and nothing bound in it. -/
  | top (namespaceName name : String) (arity : Nat)
      (ht : t.form.declared? = some { namespaceName, name, arity })
  /-- A type inside one that is not bound. -/
  | inside {o : Handle} {around : Declared Handle} {name : String} {arity : Nat}
      (hf : r.form? o = some (.named around)) (hb : around.definition = none)
      (ht : t.form = .named (around.inside o name arity none))
  /-- A type inside a bound one. Its definition is the same type inside the definition of that one. -/
  | insideBound {o u e : Handle} {around : Declared Handle} {name : String} {arity : Nat}
      (hf : r.form? o = some (.named around)) (hb : around.definition = some u)
      (he : r.get? e = some ⟨.named (around.inside u name arity none), t.isValue⟩)
      (ht : t.form = .named (around.inside o name arity (some e)))
  /-- A generic type with its parameters bound. -/
  | bound {definition : Handle} {d d' : Declared Handle} {arguments : List Handle} {isValue : Bool}
      (hd : r.get? definition = some ⟨.named d, isValue⟩)
      (hb : r.bound definition d arguments = .ok d') (ht : t = Registry.boundDescriptor d' isValue)
  /-- A generic delegate with its parameters bound. -/
  | boundDelegate {definition result res : Handle} {d d' : Declared Handle}
      {arguments params ps : List Handle} {isValue : Bool}
      (hd : r.get? definition = some ⟨.delegate d ps res, isValue⟩)
      (hb : r.bound definition d arguments = .ok d') (ht : t.form = .delegate d' params result)

theorem Descriptor.Origin.mono {r r' : Registry} {t : Descriptor Handle} (ht : t.Origin r)
    (hx : r.Extends r') : t.Origin r' := by
  cases ht with
  | undeclared ht => exact .undeclared ht
  | top namespaceName name arity ht => exact .top namespaceName name arity ht
  | inside hf hb ht => exact .inside (hx.form?_of_some hf) hb ht
  | insideBound hf hb he ht =>
    exact .insideBound (hx.form?_of_some hf) hb (hx.get?_of_some he) ht
  | bound hd hb ht => exact .bound (hx.get?_of_some hd) (Registry.bound_eq_ok hb r') ht
  | boundDelegate hd hb ht =>
    exact .boundDelegate (hx.get?_of_some hd) (Registry.bound_eq_ok hb r') ht

/-- All types have an origin. -/
def Registry.Traced (r : Registry) : Prop :=
  ∀ h t, r.get? h = some t → t.Origin r

namespace Registry

variable {r : Registry} {h outer : Handle} {t : Descriptor Handle} {d around : Declared Handle}

namespace Traced

theorem empty : Traced .empty :=
  fun h t ht => by simp [get?, Registry.empty] at ht

theorem intern (hr : r.Traced) (ht : t.Origin r) : ((intern t).run r).2.Traced := by
  rw [run_intern]
  cases hh : r.handle? t with
  | some h => exact hr
  | none =>
    cases hu : r.firstUnknown? t with
    | some c => exact hr
    | none =>
      intro h t' ht'
      rw [get?_push] at ht'
      split_ifs at ht' with hh'
      · exact Option.some.inj ht' ▸ ht.mono (.push hh)
      · exact (hr h t' ht').mono (.push hh)

theorem nested_of_unbound (hr : r.Traced) (hf : r.form? outer = some (.named around))
    (hb : around.definition = none) (name : String) (arity : Nat) (isValue : Bool) :
    ((Registry.nested outer name arity isValue).run r).2.Traced := by
  rw [run_nested_of_unbound hf hb]
  exact hr.intern (.inside hf hb rfl)

theorem nested (hr : r.Traced) (hcoh : r.Coherent) (outer : Handle) (name : String) (arity : Nat)
    (isValue : Bool) : ((nested outer name arity isValue).run r).2.Traced := by
  by_cases hf : ∃ around, r.form? outer = some (.named around)
  · obtain ⟨around, hf⟩ := hf
    cases hb : around.definition with
    | none => exact hr.nested_of_unbound hf hb name arity isValue
    | some u =>
      have hdef : r.definition? outer = some u := by
        rw [definition?_of_declared? (declared?_of_named hf), hb]
      -- the type inside the definition comes in first
      have hfu := hcoh.form?_definition hf hb
      have hr₁ := hr.nested_of_unbound hfu rfl name arity isValue
      obtain ⟨e, r₁, hrun, hx, -, he⟩ := hcoh.adds_nested_unbound hfu rfl name arity isValue
      rw [hrun] at hr₁
      rw [run_nested_of_bound hf hb (definition?_lt hcoh.toWellFormed hdef) hrun]
      exact hr₁.intern (.insideBound (hx.form?_of_some hf) hb he rfl)
  · obtain ⟨e, hrun⟩ := run_nested_of_not_named (not_exists.1 hf)
    rw [hrun]
    exact hr

theorem instantiate (hr : r.Traced) (definition : Handle) (arguments : List Handle) :
    ((instantiate definition arguments).run r).2.Traced := by
  rcases run_instantiate definition arguments r with ⟨e, hrun⟩ | ⟨d, d', v, hd, hb, hrun⟩
  · rw [hrun]
    exact hr
  · rw [hrun]
    exact hr.intern (.bound hd hb rfl)

theorem instantiateDelegate (hr : r.Traced) (definition : Handle) (arguments params : List Handle)
    (result : Handle) :
    ((instantiateDelegate definition arguments params result).run r).2.Traced := by
  rcases run_instantiateDelegate definition arguments params result r with
    ⟨e, hrun⟩ | ⟨d, d', ps, res, v, hd, hb, hrun⟩
  · rw [hrun]
    exact hr
  · rw [hrun]
    exact hr.intern (.boundDelegate hd hb rfl)

theorem after (hr : r.Traced) (hcoh : r.Coherent) {c : Construction} (hc : c.isRaw = false) :
    (c.after r).Traced := by
  cases c with
  | raw d => cases hc
  | nested outer name arity isValue => exact hr.nested hcoh outer name arity isValue
  | instantiate definition arguments => exact hr.instantiate definition arguments
  | instantiateDelegate definition arguments params result =>
    exact hr.instantiateDelegate definition arguments params result
  | named | generic | enumeration | delegate => exact hr.intern (.top _ _ _ rfl)
  | builtin | array | parameter | nullable | record => exact hr.intern (.undeclared rfl)

end Traced

namespace Built

theorem origin (hr : r.Built) (ht : r.get? h = some t) : t.Origin r :=
  hr.induction (P := Traced) .empty (fun _ _ hbuilt htraced hc => htraced.after hbuilt.coherent hc) h t ht

theorem isBound_iff (hr : r.Built) (hd : r.declared? h = some d) (hargs : d.arguments = []) :
    d.isBound = true ↔ ∃ o, d.outer = some o ∧ (r.definition? o).isSome = true := by
  obtain ⟨t, ht, htd⟩ := exists_get?_of_declared? hd
  refine ⟨fun hbound => ?_, fun ⟨o, ho, hob⟩ => ?_⟩
  · cases hr.origin ht with
    | undeclared hu => cases hu.symm.trans htd
    | top namespaceName name arity htop =>
      obtain rfl := Option.some.inj (htop.symm.trans htd)
      cases hbound
    | inside hf hb hin =>
      rw [hin] at htd
      obtain rfl := Option.some.inj htd
      cases hbound
    | @insideBound o u e around name arity hf hb he hin =>
      rw [hin] at htd
      obtain rfl := Option.some.inj htd
      refine ⟨o, rfl, ?_⟩
      rw [definition?_of_declared? (declared?_of_named hf), hb, Option.isSome_some]
    | bound hd₀ hb ht₀ =>
      rcases boundDescriptor_cases hb with ⟨-, x, -, hdesc⟩ | ⟨-, hdesc⟩ <;> rw [ht₀, hdesc] at htd
      · cases htd
      · obtain rfl := Option.some.inj htd
        exact absurd hargs (arguments_ne_nil_of_bound hb)
    | boundDelegate hd₀ hb ht₀ =>
      rw [ht₀] at htd
      obtain rfl := Option.some.inj htd
      exact absurd hargs (arguments_ne_nil_of_bound hb)
  · by_contra hbound
    have hunbound := (hr.coherent.declared ht htd).unbound (Bool.eq_false_iff.2 hbound) o ho
    rw [hunbound] at hob
    cases hob

theorem arguments_of_isNullable (hr : r.Built) (hf : r.form? h = some (.named d))
    (hn : d.isNullable = true) : d.arguments = [] := by
  obtain ⟨t, ht, hform⟩ := form?_eq_some hf
  cases hr.origin ht with
  | undeclared hu =>
    rw [hform] at hu
    cases hu
  | top namespaceName name arity htop =>
    rw [hform] at htop
    obtain rfl := Option.some.inj htop
    rfl
  | inside _ _ hin | insideBound _ _ _ hin =>
    obtain rfl := Form.named.inj (hform.symm.trans hin)
    rfl
  | bound hd₀ hb ht₀ =>
    rcases boundDescriptor_cases hb with ⟨-, x, -, hdesc⟩ | ⟨hn₀, hdesc⟩ <;> rw [ht₀, hdesc] at hform
    · cases hform
    · -- the declaration that was bound would have been nullable too
      obtain rfl := Form.named.inj hform
      obtain ⟨-, rfl⟩ := bound_eq_ok_iff.1 hb
      cases hn₀.symm.trans hn
  | boundDelegate _ _ ht₀ => cases hform.symm.trans ht₀

end Built
end Registry
end TypeBridge
