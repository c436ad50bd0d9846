import TypeBridge.Proofs.Definition
import TypeBridge.Proofs.Readers
import TypeBridge.Source.Name

/-!
# Canonical names

A canonical name is found by way of the definition that a bound type carries, and printed as the
definition is displayed. It is nevertheless a function of the declarations around the type and of
nothing that is bound in them: the namespace of the outermost one, and then all names with the places
of their parameters (`canonicalName_eq`). A type and its definition have the same names around them
(`map_enclosing_unboundForm`), and an unbound type is displayed with just these (`display_eq`).
-/

namespace TypeBridge

/-- What stands before the names of a namespace: nothing in the global one. -/
def scopeOf (namespaceName : String) : String :=
  if namespaceName = "" then "" else namespaceName ++ "."

namespace Declared
variable {ρ : Type}

/-- The simple name with the places of the parameters. -/
def unboundName (d : Declared ρ) : String :=
  d.name ++ arityMarker d.arity

theorem display_of_arguments_eq_nil {d : Declared ρ} (ha : d.arguments = []) (text : ρ → String) :
    d.display text = d.qualifier text ++ d.unboundName := by
  rw [display, generics, ha, unboundName, String.append_assoc]
  rfl

theorem generics_of_arguments_ne_nil {d : Declared ρ} (ha : d.arguments ≠ []) (text : ρ → String) :
    d.generics text = "<" ++ ", ".intercalate (d.arguments.map text) ++ ">" := by
  rw [generics, if_neg (by simpa using ha)]

theorem qualifier_of_top {d : Declared ρ} (ho : d.outer = none) (text : ρ → String) :
    d.qualifier text = scopeOf d.namespaceName := by
  rw [qualifier, ho, scopeOf]
  simp only [String.isEmpty_iff]

theorem qualifier_of_outer {d : Declared ρ} {o : ρ} (ho : d.outer = some o) (text : ρ → String) :
    d.qualifier text = text o ++ "." := by
  rw [qualifier, ho]

end Declared

namespace Registry

variable {r r' : Registry} {h u o : Handle} {d e : Declared Handle}

/-! ### Readers of a declared type -/

theorem display_of_declared? (hr : r.WellFormed) (hd : r.declared? h = some d) :
    r.display h = d.display r.display := by
  obtain ⟨⟨form, isValue⟩, ht, htd⟩ := exists_get?_of_declared? hd
  have hform : ∀ text : Handle → String, form.display text = d.display text := by
    intro text
    cases form <;> simp only [Form.declared?, reduceCtorEq, Option.some.injEq] at htd <;>
      subst htd <;> rfl
  rw [hr.display_of_get? ht, Form.display_map, hform]
  rfl

theorem canonicalName_of_declared? (hr : r.WellFormed) (hd : r.declared? h = some d) :
    r.canonicalName h =
      if r.isBoundGeneric h then (d.definition.map r.canonicalName).getD (r.display h)
      else r.display h := by
  obtain ⟨⟨form, isValue⟩, ht, htd⟩ := exists_get?_of_declared? hd
  rw [hr.canonicalName_of_get? ht]
  cases form <;> simp only [Form.declared?, reduceCtorEq, Option.some.injEq] at htd <;>
    subst htd <;> rfl

theorem flatName?_of_declared? (hr : r.WellFormed) (hd : r.declared? h = some d) :
    r.flatName? h = some (match d.outer.bind r.flatName? with
      | some outer => outer ++ "_" ++ d.name
      | none => d.name) := by
  obtain ⟨t, ht, htd⟩ := exists_get?_of_declared? hd
  rw [flatName?, fold_of_get? ht, htd, Option.map_some]
  cases ho : d.outer with
  | none => rfl
  | some o =>
    exact congrArg (fun around => some (match around with
      | some outer => outer ++ "_" ++ d.name
      | none => d.name)) (if_pos (hr.outer_lt hd ho))

theorem declaredName_of_declared? (hd : r.declared? h = some d) :
    r.declaredName h = ((r.flatName? h).getD d.name, d.namespaceName) := by
  obtain ⟨⟨form, isValue⟩, ht, htd⟩ := exists_get?_of_declared? hd
  unfold declaredName
  cases form <;> simp only [Form.declared?, reduceCtorEq, Option.some.injEq] at htd <;>
    simp only [ht, htd]

/-! ### The names around a type -/

theorem Coherent.exists_outermost (hr : r.Coherent) (hd : r.declared? h = some d) :
    ∃ top inner, r.enclosing h = top :: inner ∧ top.outer = none ∧
      top.namespaceName = d.namespaceName := by
  induction h using Nat.strongRecOn generalizing d with
  | ind h ih =>
    rw [enclosing_of_declared? hr.toWellFormed hd]
    cases ho : d.outer with
    | none => exact ⟨d, [], rfl, ho, rfl⟩
    | some o =>
      obtain ⟨t, -, hcoh⟩ := hr.of_declared? hd
      obtain ⟨around, hf, hns⟩ := hcoh.outer o ho
      obtain ⟨top, inner, hchain, htop, htns⟩ :=
        ih o (hr.outer_lt hd ho) (declared?_of_named hf)
      refine ⟨top, inner ++ [d], ?_, htop, htns.trans hns⟩
      rw [Option.elim_some, hchain, List.cons_append]

/-- A type and its definition have the same names around them: whatever does not look at what is
bound sees no difference. -/
theorem Coherent.map_enclosing_unboundForm {α : Type} (hr : r.Coherent) {f : Declared Handle → α}
    (hf : ∀ d unbound, f (d.unbind unbound) = f d) (h : Handle) :
    (r.enclosing (r.unboundForm h)).map f = (r.enclosing h).map f := by
  induction h using Nat.strongRecOn with
  | ind h ih =>
    cases hu : r.definition? h with
    | none => rw [unboundForm_of_definition?_eq_none hu]
    | some u =>
      obtain ⟨d, hd, hdu⟩ := exists_declared?_of_definition? hu
      have hwf := hr.toWellFormed
      rw [unboundForm_of_definition? hu, enclosing_of_declared? hwf hd,
        enclosing_of_declared? hwf (hr.declared?_definition hd hdu), List.map_append,
        List.map_append, List.map_singleton, List.map_singleton, hf]
      cases ho : d.outer with
      | none => simp [Declared.unbind, ho]
      | some o => simp [Declared.unbind, ho, ih o (hwf.outer_lt hd ho)]

theorem Coherent.arguments_eq_nil (hr : r.Coherent) (hd : r.declared? h = some d)
    (hu : r.definition? h = none) : d.arguments = [] := by
  obtain ⟨t, -, hcoh⟩ := hr.of_declared? hd
  by_contra hargs
  obtain ⟨-, hbound⟩ := hcoh.arguments hargs
  rw [Declared.isBound, ← definition?_of_declared? hd, hu] at hbound
  cases hbound

theorem Coherent.display_eq (hr : r.Coherent) (hd : r.declared? h = some d)
    (hu : r.definition? h = none) :
    r.display h =
      scopeOf d.namespaceName ++ ".".intercalate ((r.enclosing h).map Declared.unboundName) := by
  induction h using Nat.strongRecOn generalizing d with
  | ind h ih =>
    have hwf := hr.toWellFormed
    rw [display_of_declared? hwf hd,
      Declared.display_of_arguments_eq_nil (hr.arguments_eq_nil hd hu),
      enclosing_of_declared? hwf hd]
    cases ho : d.outer with
    | none => simp [Declared.qualifier_of_top ho]
    | some o =>
      obtain ⟨t, -, hcoh⟩ := hr.of_declared? hd
      obtain ⟨around, hf, hns⟩ := hcoh.outer o ho
      have hbound : d.isBound = false := by
        rw [Declared.isBound, ← definition?_of_declared? hd, hu, Option.isSome_none]
      have hdo := declared?_of_named hf
      have hshown := ih o (hr.outer_lt hd ho) hdo (hcoh.unbound hbound o ho)
      obtain ⟨top, inner, hchain, -, -⟩ := hr.exists_outermost hdo
      rw [Declared.qualifier_of_outer ho, hshown, hns, Option.elim_some, List.map_append,
        String.intercalate_append_of_ne_nil (by simp [hchain]) (by simp), List.map_singleton,
        String.intercalate_singleton]
      simp only [String.append_assoc]

theorem Coherent.canonicalName_eq (hr : r.Coherent) (hd : r.declared? h = some d) :
    r.canonicalName h =
      scopeOf d.namespaceName ++ ".".intercalate ((r.enclosing h).map Declared.unboundName) := by
  have hwf := hr.toWellFormed
  cases hu : r.definition? h with
  | none =>
    have hdef : d.definition = none := by rw [← definition?_of_declared? hd, hu]
    rw [canonicalName_of_declared? hwf hd, hdef, ← hr.display_eq hd hu]
    simp
  | some u =>
    have hdu : d.definition = some u := by rw [← definition?_of_declared? hd, hu]
    have hdef := hr.declared?_definition hd hdu
    have hnone : r.definition? u = none := definition?_of_declared? hdef
    have hbound : r.isBoundGeneric h = true := by
      rw [isBoundGeneric, (hr.isGeneric_of_definition? hu).1, isUnbound_of_definition? hu]
      rfl
    have hnames := hr.map_enclosing_unboundForm (f := Declared.unboundName) (fun _ _ => rfl) h
    rw [unboundForm_of_definition? hu] at hnames
    -- the definition has no definition, so it is displayed
    rw [canonicalName_of_declared? hwf hd, if_pos hbound, hdu, Option.map_some, Option.getD_some,
      canonicalName_of_declared? hwf hdef]
    simp only [Declared.unbind, Option.map_none, Option.getD_none, ite_self]
    rw [hr.display_eq hdef hnone, hnames]
    rfl

theorem Coherent.canonicalName_of_top (hr : r.Coherent) (hd : r.declared? h = some d)
    (ho : d.outer = none) : r.canonicalName h = scopeOf d.namespaceName ++ d.unboundName := by
  rw [hr.canonicalName_eq hd, enclosing_of_declared? hr.toWellFormed hd, ho, Option.elim_none,
    List.nil_append, List.map_singleton, String.intercalate_singleton]

theorem Coherent.canonicalName_of_outer (hr : r.Coherent) (hd : r.declared? h = some d)
    (ho : d.outer = some o) : r.canonicalName h = r.canonicalName o ++ "." ++ d.unboundName := by
  obtain ⟨t, -, hcoh⟩ := hr.of_declared? hd
  obtain ⟨around, hf, hns⟩ := hcoh.outer o ho
  have hdo := declared?_of_named hf
  obtain ⟨top, inner, hchain, -, -⟩ := hr.exists_outermost hdo
  rw [hr.canonicalName_eq hd, hr.canonicalName_eq hdo, hns, enclosing_of_declared? hr.toWellFormed hd,
    ho, Option.elim_some, List.map_append, List.map_singleton,
    String.intercalate_append_of_ne_nil (by simp [hchain]) (by simp), String.intercalate_singleton]
  simp only [String.append_assoc]

theorem Coherent.flatName?_eq (hr : r.Coherent) (hd : r.declared? h = some d) :
    r.flatName? h = some ("_".intercalate ((r.enclosing h).map (·.name))) := by
  induction h using Nat.strongRecOn generalizing d with
  | ind h ih =>
    have hwf := hr.toWellFormed
    rw [flatName?_of_declared? hwf hd, enclosing_of_declared? hwf hd]
    cases ho : d.outer with
    | none => simp
    | some o =>
      obtain ⟨t, -, hcoh⟩ := hr.of_declared? hd
      obtain ⟨around, hf, -⟩ := hcoh.outer o ho
      have hdo := declared?_of_named hf
      obtain ⟨top, inner, hchain, -, -⟩ := hr.exists_outermost hdo
      rw [Option.bind_some, ih o (hr.outer_lt hd ho) hdo, Option.elim_some, List.map_append,
        String.intercalate_append_of_ne_nil (by simp [hchain]) (by simp), List.map_singleton,
        String.intercalate_singleton]

/-! ### Constructions that bind -/

theorem Coherent.canonicalName_congr {h' : Handle} (hr : r.Coherent) (hd : r.declared? h = some d)
    (he : r.declared? h' = some e) (hns : e.namespaceName = d.namespaceName)
    (hname : e.name = d.name) (harity : e.arity = d.arity)
    (houter : e.outer.map r.unboundForm = d.outer.map r.unboundForm) :
    r.canonicalName h' = r.canonicalName h := by
  have hwf := hr.toWellFormed
  have hnames : ∀ {h d}, r.declared? h = some d → (r.enclosing h).map Declared.unboundName =
      ((d.outer.map r.unboundForm).elim [] r.enclosing).map Declared.unboundName ++
        [d.unboundName] := by
    intro h d hd
    rw [enclosing_of_declared? hwf hd, List.map_append, List.map_singleton]
    cases d.outer with
    | none => rfl
    | some o =>
      rw [Option.map_some, Option.elim_some, Option.elim_some,
        hr.map_enclosing_unboundForm (f := Declared.unboundName) fun _ _ => rfl]
  rw [hr.canonicalName_eq hd, hr.canonicalName_eq he, hnames hd, hnames he, houter, hns,
    Declared.unboundName, Declared.unboundName, hname, harity]

theorem Coherent.canonicalName_of_bound {definition : Handle} {arguments : List Handle}
    (hr : r.Coherent) (hd : r.declared? definition = some d) (he : r.declared? h = some e)
    (hb : r'.bound definition d arguments = .ok e) :
    r.canonicalName h = r.canonicalName definition := by
  obtain ⟨-, rfl⟩ := bound_eq_ok_iff.1 hb
  exact hr.canonicalName_congr hd he rfl rfl rfl rfl

theorem Coherent.canonicalName_of_isNullable (hr : r.Coherent) (hd : r.declared? h = some d)
    (hn : d.isNullable = true) : r.canonicalName h = "System.Nullable<>" := by
  simp only [Declared.isNullable, Bool.and_eq_true, Option.isNone_iff_eq_none,
    decide_eq_true_eq] at hn
  obtain ⟨⟨⟨houter, harity⟩, hns⟩, hname⟩ := hn
  rw [hr.canonicalName_eq hd, enclosing_of_declared? hr.toWellFormed hd, houter, hns]
  simp only [Option.elim_none, List.nil_append, List.map_singleton, String.intercalate_singleton,
    Declared.unboundName, hname, harity]
  decide +kernel

theorem canonicalName_of_nullable {inner : Handle} {isValue : Bool}
    (ht : r.get? h = some ⟨.nullable inner, isValue⟩) :
    r.canonicalName h = "System.Nullable<>" := by
  rw [canonicalName, fold_of_get? ht]

theorem display_of_nullable {inner : Handle} {isValue : Bool} (hr : r.WellFormed)
    (ht : r.get? h = some ⟨.nullable inner, isValue⟩) : r.display h = r.display inner ++ "?" :=
  hr.display_of_get? ht

theorem Coherent.canonicalName_instantiate {definition : Handle} {arguments : List Handle}
    (hr : r.Coherent) (hrun : (Registry.instantiate definition arguments).run r = (.ok h, r')) :
    r'.canonicalName h = r'.canonicalName definition := by
  have hr' := hr.instantiate definition arguments
  have hx := (instantiate_grows definition arguments).extended hr.toWellFormed
  rw [hrun] at hr' hx
  rcases run_instantiate definition arguments r with ⟨e, he⟩ | ⟨d, d', v, ht, hb, he⟩
  · rw [hrun] at he
    cases he
  have hget : r'.get? h = some (boundDescriptor d' v) := get?_of_run_intern hr.toWellFormed (he.symm.trans hrun)
  have hd : r'.declared? definition = some d := declared?_of_get? (hx.get?_of_some ht)
  rcases boundDescriptor_cases hb with ⟨hn, inner, -, hdesc⟩ | ⟨-, hdesc⟩ <;> rw [hdesc] at hget
  · rw [canonicalName_of_nullable hget, hr'.canonicalName_of_isNullable hd hn]
  · exact hr'.canonicalName_of_bound hd (declared?_of_get? hget) hb

theorem Coherent.canonicalName_instantiateDelegate {definition result : Handle}
    {arguments params : List Handle} (hr : r.Coherent)
    (hrun : (Registry.instantiateDelegate definition arguments params result).run r = (.ok h, r')) :
    r'.canonicalName h = r'.canonicalName definition := by
  have hr' := hr.instantiateDelegate definition arguments params result
  have hx := (instantiateDelegate_grows definition arguments params result).extended hr.toWellFormed
  rw [hrun] at hr' hx
  rcases run_instantiateDelegate definition arguments params result r with
    ⟨e, he⟩ | ⟨d, d', ps, res, v, ht, hb, he⟩
  · rw [hrun] at he
    cases he
  have hget := get?_of_run_intern hr.toWellFormed (he.symm.trans hrun)
  have hd : r'.declared? definition = some d := declared?_of_get? (hx.get?_of_some ht)
  exact hr'.canonicalName_of_bound hd (declared?_of_get? hget) hb

/-- A type can be declared inside a bound type and inside its definition, and has the same canonical
name in both. -/
theorem Coherent.canonicalName_nested (hr : r.Coherent) (hf : r.form? o = some (.named d))
    (hu : r.definition? o = some u) (name : String) (arity : Nat) (isValue : Bool) :
    ∃ h r₁ h' r₂, (Registry.nested o name arity isValue).run r = (.ok h, r₁) ∧
      (Registry.nested u name arity isValue).run r₁ = (.ok h', r₂) ∧
      r₂.canonicalName h = r₂.canonicalName h' := by
  have ho := lt_size_of_form? hf
  have hdu : d.definition = some u := by rw [← definition?_of_declared? (declared?_of_named hf), hu]
  obtain ⟨_, h, r₁, hrun₁, hx₁, hr₁, hget₁⟩ := hr.adds_nested hf name arity isValue
  have hf₁ : r₁.form? o = some (.named d) := by rw [hx₁.form? ho, hf]
  obtain ⟨_, h', r₂, hrun₂, hx₂, hr₂, hget₂⟩ :=
    hr₁.adds_nested (hr₁.form?_definition hf₁ hdu) name arity isValue
  refine ⟨h, r₁, h', r₂, hrun₁, hrun₂, ?_⟩
  have hdef : r₂.definition? o = some u := by
    rw [(hx₁.trans hx₂).definition? ho, hu]
  have hnone : r₂.definition? u = none := (hr₂.isDefinition hdef).noDefinition
  refine hr₂.canonicalName_congr (declared?_of_get? hget₂)
    (declared?_of_get? (hx₂.get?_of_some hget₁)) rfl rfl rfl ?_
  show some (r₂.unboundForm o) = some (r₂.unboundForm u)
  rw [unboundForm_of_definition? hdef, unboundForm_of_definition?_eq_none hnone]

/-- In whatever is built without raw descriptors, the canonical name of a declared type is the
namespace of the outermost type around it, and then the names from there to the type itself, each with
the places of its parameters. What is bound anywhere does not show, so binding a definition leaves its
canonical name as it is, for optional values too, and a type inside a bound one has the name that it
has inside the definition. The declared name takes the same names without the places. -/
theorem canonicalName_ignores_bindings (hr : r.Built) :
    (∀ h d, r.declared? h = some d → ∃ top inner,
      r.enclosing h = top :: inner ∧ top.outer = none ∧
      r.canonicalName h = (if top.namespaceName = "" then "" else top.namespaceName ++ ".") ++
        ".".intercalate ((top :: inner).map fun d => d.name ++ arityMarker d.arity) ∧
      r.declaredName h = ("_".intercalate ((top :: inner).map (·.name)), top.namespaceName)) ∧
    (∀ definition arguments h r', (instantiate definition arguments).run r = (.ok h, r') →
      r'.canonicalName h = r'.canonicalName definition) ∧
    (∀ definition arguments params result h r',
      (instantiateDelegate definition arguments params result).run r = (.ok h, r') →
      r'.canonicalName h = r'.canonicalName definition) ∧
    (∀ o u d, r.form? o = some (.named d) → r.definition? o = some u →
      ∀ name arity isValue, ∃ h r₁ h' r₂, (nested o name arity isValue).run r = (.ok h, r₁) ∧
        (nested u name arity isValue).run r₁ = (.ok h', r₂) ∧
        r₂.canonicalName h = r₂.canonicalName h') := by
  have hcoh := hr.coherent
  refine ⟨fun h d hd => ?_, fun _ _ _ _ hrun => hcoh.canonicalName_instantiate hrun,
    fun _ _ _ _ _ _ hrun => hcoh.canonicalName_instantiateDelegate hrun,
    fun _ _ _ hf hu => hcoh.canonicalName_nested hf hu⟩
  obtain ⟨top, inner, hchain, htop, hns⟩ := hcoh.exists_outermost hd
  refine ⟨top, inner, hchain, htop, ?_, ?_⟩
  · rw [hcoh.canonicalName_eq hd, hchain, hns]
    rfl
  · rw [declaredName_of_declared? hd, hcoh.flatName?_eq hd, hchain, hns, Option.getD_some]

/-- A generic type inside a bound one, bound in turn, and an optional value bound by hand. -/
theorem canonicalName_ignores_bindings_nested :
    let r := ofConstructions [.builtin .int32, .generic "Lib" "Box" 1 false, .instantiate 1 [0],
      .nested 2 "Pair" 2 true, .instantiate 4 [0, 0], .generic "System" "Nullable" 1 true]
    r.Built ∧ r.display 5 = "Lib.Box<int>.Pair<int, int>" ∧
      r.canonicalName 5 = "Lib.Box<>.Pair<,>" ∧
      ((Construction.instantiate 6 [0]).after r).canonicalName 7 = "System.Nullable<>" := by
  intro r
  have hr : r.Built := ⟨_, by decide, rfl⟩
  obtain ⟨hnames, hinstantiate, -, -⟩ := canonicalName_ignores_bindings hr
  obtain ⟨d, hd⟩ : ∃ d, r.declared? 5 = some d := Option.isSome_iff_exists.1 (by decide +kernel)
  obtain ⟨top, inner, hchain, -, hname, -⟩ := hnames 5 d hd
  have hchain' : r.enclosing 5 =
      [{ namespaceName := "Lib", name := "Box", arity := 1, arguments := [0], definition := some 1 },
        { namespaceName := "Lib", name := "Pair", outer := some 2, arity := 2, arguments := [0, 0],
          definition := some 3 }] := by
    decide +kernel
  have hok : ((instantiate 6 [0]).run r).1 = .ok 7 := by decide +kernel
  have hoptional := hinstantiate 6 [0] 7 ((Construction.instantiate 6 [0]).after r) (Prod.ext hok rfl)
  refine ⟨hr, by decide +kernel, ?_, ?_⟩
  · obtain ⟨rfl, rfl⟩ := List.cons_eq_cons.1 (hchain.symm.trans hchain')
    rw [hname]
    decide +kernel
  · rw [hoptional]
    decide +kernel

end Registry
end TypeBridge
