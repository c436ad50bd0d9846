import Mathlib.Data.List.Induction
import TypeBridge.Proofs.Construct

/-!
# The generic state of declared types

A declaration says by hand what is bound in it: its arguments, its definition and the type around it
are fields of their own, and nothing in a registry forces them to agree. Constructions keep them in
step. `Declared.Coherent` is what holds of each declaration beside the types that it refers to: the
definition of a bound type is the same declaration with nothing bound, inside the definition of the
type around it.

`Registry.Coherent` says it of a whole registry. It is kept by every construction but the raw one
(`Construction.coherent_after`), so it holds of what is `Built` from these.
-/

namespace TypeBridge

/-- What is bound in a declaration agrees with the types that it refers to. `kind` and `isValue` are
those of the type that is declared. -/
structure Declared.Coherent (r : Registry) (kind : Form.Kind) (isValue : Bool)
    (d : Declared Handle) : Prop where
  /-- A type around is a named one, in the same namespace. -/
  outer : ∀ o, d.outer = some o →
    ∃ around, r.form? o = some (.named around) ∧ around.namespaceName = d.namespaceName
  /-- All parameters are bound or none, and the bound ones to a definition. -/
  arguments : d.arguments ≠ [] → d.arguments.length = d.arity ∧ d.isBound = true
  /-- Inside a bound type, a type is bound too. -/
  unbound : d.isBound = false → ∀ o, d.outer = some o → r.definition? o = none
  /-- A type is bound by arguments of its own or by the type around. -/
  bound : d.isBound = true → 0 < d.arity ∨ ∃ o, d.outer = some o ∧ (r.definition? o).isSome = true
  /-- The definition is the same declaration with nothing bound. -/
  definition : ∀ u, d.definition = some u → ∃ t, r.get? u = some t ∧ t.form.kind = kind ∧
    t.isValue = isValue ∧ t.form.declared? = some (d.unbind r.unboundForm)
  /-- Delegates are shared. -/
  delegate : kind = .delegate → isValue = false

/-- The declaration in a descriptor is coherent, if there is one. -/
def Descriptor.Coherent (r : Registry) (t : Descriptor Handle) : Prop :=
  ∀ d, t.form.declared? = some d → d.Coherent r t.form.kind t.isValue

structure Registry.Coherent (r : Registry) : Prop extends r.WellFormed where
  coherent : ∀ {h t}, r.get? h = some t → t.Coherent r

namespace Declared.Coherent

variable {r r' : Registry} {kind : Form.Kind} {isValue : Bool} {d : Declared Handle}

theorem top (namespaceName name : String) (arity : Nat) (hk : kind = .delegate → isValue = false) :
    Coherent r kind isValue { namespaceName, name, arity } := by
  refine ⟨fun o ho => ?_, fun ha => absurd rfl ha, fun _ o ho => ?_, fun hb => ?_, fun u hu => ?_, hk⟩
  · cases ho
  · cases ho
  · cases hb
  · cases hu

theorem mono (hd : d.Coherent r kind isValue) (hx : r.Extends r')
    (hrefs : ∀ c ∈ d.references, c < r.size) : d.Coherent r' kind isValue := by
  have houter : ∀ o, d.outer = some o → o < r.size :=
    fun o ho => hrefs o (mem_references_of_outer ho)
  refine ⟨fun o ho => ?_, hd.arguments, fun hb o ho => ?_, fun hb => ?_, fun u hu => ?_, hd.delegate⟩
  · rw [hx.form? (houter o ho)]
    exact hd.outer o ho
  · rw [hx.definition? (houter o ho)]
    exact hd.unbound hb o ho
  · refine (hd.bound hb).imp_right fun ⟨o, ho, hbound⟩ => ⟨o, ho, ?_⟩
    rwa [hx.definition? (houter o ho)]
  · obtain ⟨t, ht, hkind, hvalue, hdecl⟩ := hd.definition u hu
    refine ⟨t, hx.get?_of_some ht, hkind, hvalue, ?_⟩
    have hsame : d.outer.map r'.unboundForm = d.outer.map r.unboundForm :=
      Option.map_congr fun o ho => hx.unboundForm (houter o ho)
    rw [hdecl, unbind, unbind, hsame]

/-- A coherent declaration without definition is what is left of it when nothing is bound. -/
theorem unbind_eq (hd : d.Coherent r kind isValue) (hb : d.isBound = false) :
    d.unbind r.unboundForm = d := by
  have hargs : d.arguments = [] := by
    by_contra hne
    rw [(hd.arguments hne).2] at hb
    cases hb
  have hdef : d.definition = none := Option.isSome_eq_false_iff.1 hb |> Option.isNone_iff_eq_none.1
  have houter : d.outer.map r.unboundForm = d.outer := by
    cases ho : d.outer with
    | none => rfl
    | some o => rw [Option.map_some, Registry.unboundForm_of_definition?_eq_none (hd.unbound hb o ho)]
  rw [unbind, houter, ← hargs, ← hdef]

end Declared.Coherent

namespace Registry

variable {r : Registry} {h : Handle} {t : Descriptor Handle} {d : Declared Handle}

namespace Coherent

theorem empty : Coherent Registry.empty :=
  { WellFormed.empty with coherent := fun ht => by simp [get?, Registry.empty] at ht }

theorem declared (hr : r.Coherent) (ht : r.get? h = some t) (hd : t.form.declared? = some d) :
    d.Coherent r t.form.kind t.isValue :=
  hr.coherent ht d hd

theorem push (hr : r.Coherent) (hnew : r.handle? t = none) (hrefs : ∀ c ∈ t.references, c < r.size)
    (ht : t.Coherent r) : (r.push t).Coherent := by
  refine { hr.toWellFormed.push hnew hrefs with coherent := fun {h t'} ht' d hd => ?_ }
  have hx := Extends.push hnew
  rw [get?_push] at ht'
  split_ifs at ht' with hh
  · obtain rfl := Option.some.inj ht'
    exact (ht d hd).mono hx fun c hc => hrefs c (Form.references_of_declared? hd hc)
  · exact (hr.declared ht' hd).mono hx fun c hc =>
      hr.references_lt_size ht' c (Form.references_of_declared? hd hc)

theorem intern (hr : r.Coherent) (ht : t.Coherent r) : ((intern t).run r).2.Coherent := by
  rw [run_intern]
  cases hh : r.handle? t with
  | some h => exact hr
  | none =>
    cases hu : r.firstUnknown? t with
    | some c => exact hr
    | none => exact hr.push hh (hr.firstUnknown?_eq_none_iff.1 hu) ht

end Coherent

end Registry

namespace Declared.Coherent

open Registry

variable {r : Registry} {h u outer definition : Handle} {t : Descriptor Handle}
  {d d' around : Declared Handle} {name : String} {arity : Nat} {kind : Form.Kind} {isValue : Bool}
  {arguments : List Handle}

theorem inside_unbound (hf : r.form? outer = some (.named around))
    (hb : r.definition? outer = none) :
    (around.inside outer name arity none).Coherent r .named isValue := by
  refine ⟨fun o ho => ?_, fun ha => absurd rfl ha, fun _ o ho => ?_, fun hbound => ?_, fun u hu => ?_,
    nofun⟩
  · obtain rfl := Option.some.inj ho
    exact ⟨around, hf, rfl⟩
  · obtain rfl := Option.some.inj ho
    exact hb
  · cases hbound
  · cases hu

theorem inside_bound (hf : r.form? outer = some (.named around)) (hb : r.definition? outer = some u)
    (hh : r.get? h = some ⟨.named (around.inside u name arity none), isValue⟩) :
    (around.inside outer name arity (some h)).Coherent r .named isValue := by
  refine ⟨fun o ho => ?_, fun ha => absurd rfl ha, fun hbound => ?_, fun _ => ?_, fun e he => ?_,
    nofun⟩
  · obtain rfl := Option.some.inj ho
    exact ⟨around, hf, rfl⟩
  · cases hbound
  · exact .inr ⟨outer, rfl, by rw [hb, Option.isSome_some]⟩
  · obtain rfl := Option.some.inj he
    refine ⟨_, hh, rfl, rfl, ?_⟩
    simp only [Form.declared?, unbind, inside, Option.map_some, unboundForm_of_definition? hb]

theorem of_bound (hd : d.Coherent r t.form.kind t.isValue) (ht : r.get? definition = some t)
    (htd : t.form.declared? = some d) (hb : r.bound definition d arguments = .ok d') :
    d'.Coherent r t.form.kind t.isValue := by
  obtain ⟨⟨harity, hargs, hlength⟩, rfl⟩ := bound_eq_ok_iff.1 hb
  refine ⟨hd.outer, fun _ => ⟨hlength, rfl⟩, fun hbound => ?_, fun _ => .inl harity, fun u hu => ?_,
    hd.delegate⟩
  · cases hbound
  · obtain rfl := Option.some.inj hu
    cases hdef : d.definition with
    | none =>
      have hsame := hd.unbind_eq (by rw [isBound, hdef, Option.isSome_none])
      exact ⟨t, ht, rfl, rfl, by rw [htd]; exact congrArg some hsame.symm⟩
    | some e => exact hd.definition e hdef

theorem boundDescriptor (hd : d.Coherent r .named isValue) :
    (boundDescriptor d isValue).Coherent r := by
  intro d₁ hd₁
  unfold Registry.boundDescriptor at hd₁ ⊢
  split at hd₁
  next => cases hd₁
  next =>
    obtain rfl := Option.some.inj hd₁
    exact hd

end Declared.Coherent

namespace Registry

variable {r : Registry} {u outer definition : Handle} {t : Descriptor Handle}
  {d d' around : Declared Handle} {isValue : Bool} {arguments : List Handle}

/-- The step gives a handle for the descriptor, in a coherent registry that extends this one. -/
def Adds (r : Registry) (b : Build Handle) (t : Descriptor Handle) : Prop :=
  ∃ h r', b.run r = (.ok h, r') ∧ r.Extends r' ∧ r'.Coherent ∧ r'.get? h = some t

namespace Coherent

theorem adds_intern (hr : r.Coherent) (hrefs : ∀ c ∈ t.references, c < r.size)
    (ht : t.Coherent r) : r.Adds (Registry.intern t) t := by
  obtain ⟨h, r', hrun, hget⟩ := exists_run_intern hr.toWellFormed hrefs
  have hx := (intern_grows t).extended hr.toWellFormed
  have hr' := hr.intern ht
  rw [hrun] at hx hr'
  exact ⟨h, r', hrun, hx, hr', hget⟩

theorem adds_generic (hr : r.Coherent) (namespaceName name : String) (arity : Nat) (isValue : Bool) :
    r.Adds (generic namespaceName name arity isValue)
      ⟨.named { namespaceName, name, arity }, isValue⟩ := by
  refine hr.adds_intern (fun c hc => by cases hc) fun d hd => ?_
  obtain rfl := Option.some.inj hd
  exact .top _ _ _ nofun

theorem adds_instantiate (hr : r.Coherent) (ht : r.get? definition = some ⟨.named d, isValue⟩)
    (hb : r.bound definition d arguments = .ok d') (hargs : ∀ c ∈ arguments, c < r.size) :
    r.Adds (Registry.instantiate definition arguments) (boundDescriptor d' isValue) := by
  unfold Adds
  rw [run_instantiate_of_bound ht hb]
  exact hr.adds_intern (hr.lt_size_of_boundDescriptor ht hb hargs)
    ((hr.declared ht rfl).of_bound ht rfl hb).boundDescriptor

/-- The definition of a bound named type is the named type with nothing bound. -/
theorem form?_definition (hr : r.Coherent) (hf : r.form? outer = some (.named around))
    (hu : around.definition = some u) : r.form? u = some (.named (around.unbind r.unboundForm)) := by
  obtain ⟨t, ht, hform⟩ := form?_eq_some hf
  have hd := hr.declared ht (d := around) (by rw [hform]; rfl)
  obtain ⟨t', ht', hkind, -, hdecl⟩ := hd.definition u hu
  rw [hform] at hkind
  rw [form?_of_get? ht', Form.eq_named_of_kind hkind hdecl]

theorem adds_nested_unbound (hr : r.Coherent) (hf : r.form? outer = some (.named around))
    (hb : around.definition = none) (name : String) (arity : Nat) (isValue : Bool) :
    r.Adds (nested outer name arity isValue)
      ⟨.named (around.inside outer name arity none), isValue⟩ := by
  unfold Adds
  rw [run_nested_of_unbound hf hb]
  refine hr.adds_intern (fun c hc => ?_) fun d hd => ?_
  · have hc : c ∈ (around.inside outer name arity none).references := hc
    rw [Declared.references_inside] at hc
    exact List.mem_singleton.1 hc ▸ lt_size_of_form? hf
  · obtain rfl := Option.some.inj hd
    exact .inside_unbound hf (by rw [definition?_of_declared? (declared?_of_named hf), hb])

/-- A type can be declared inside every named type. If that one is bound, there is a definition too. -/
theorem adds_nested (hr : r.Coherent) (hf : r.form? outer = some (.named around))
    (name : String) (arity : Nat) (isValue : Bool) :
    ∃ definition, r.Adds (nested outer name arity isValue)
      ⟨.named (around.inside outer name arity definition), isValue⟩ := by
  cases hb : around.definition with
  | none => exact ⟨none, hr.adds_nested_unbound hf hb name arity isValue⟩
  | some u =>
    have hdef : r.definition? outer = some u := by
      rw [definition?_of_declared? (declared?_of_named hf), hb]
    have houter := lt_size_of_form? hf
    -- the same type inside the definition comes first
    obtain ⟨e, r₁, hrun, hx, hr₁, he⟩ :=
      hr.adds_nested_unbound (hr.form?_definition hf hb) rfl name arity isValue
    have hf₁ : r₁.form? outer = some (.named around) := by rw [hx.form? houter, hf]
    have hdef₁ : r₁.definition? outer = some u := by rw [hx.definition? houter, hdef]
    have hrefs : ∀ c ∈ (around.inside outer name arity (some e)).references, c < r₁.size := by
      intro c hc
      rw [Declared.references_inside, Option.toList_some, List.mem_pair] at hc
      rcases hc with rfl | rfl
      · exact Nat.lt_of_lt_of_le houter hx.size_le
      · exact get?_eq_some_lt he
    obtain ⟨h, r', hrun', hx', hr', hget⟩ := hr₁.adds_intern
      (t := ⟨.named (around.inside outer name arity (some e)), isValue⟩) hrefs fun d hd => by
        obtain rfl := Option.some.inj hd
        exact .inside_bound hf₁ hdef₁ he
    refine ⟨some e, h, r', ?_, hx.trans hx', hr', hget⟩
    rw [run_nested_of_bound hf hb (definition?_lt hr.toWellFormed hdef) hrun, hrun']

theorem nested (hr : r.Coherent) (outer : Handle) (name : String) (arity : Nat) (isValue : Bool) :
    ((nested outer name arity isValue).run r).2.Coherent := by
  by_cases hf : ∃ around, r.form? outer = some (.named around)
  · obtain ⟨around, hf⟩ := hf
    obtain ⟨_, h, r', hrun, -, hr', -⟩ := hr.adds_nested hf name arity isValue
    rw [hrun]
    exact hr'
  · obtain ⟨e, hrun⟩ := run_nested_of_not_named (not_exists.1 hf)
    rw [hrun]
    exact hr

theorem instantiate (hr : r.Coherent) (definition : Handle) (arguments : List Handle) :
    ((instantiate definition arguments).run r).2.Coherent := by
  rcases run_instantiate definition arguments r with ⟨e, hrun⟩ | ⟨d, d', v, ht, hb, hrun⟩
  · rw [hrun]
    exact hr
  · rw [hrun]
    exact hr.intern ((hr.declared ht rfl).of_bound ht rfl hb).boundDescriptor

theorem instantiateDelegate (hr : r.Coherent) (definition : Handle)
    (arguments params : List Handle) (result : Handle) :
    ((instantiateDelegate definition arguments params result).run r).2.Coherent := by
  rcases run_instantiateDelegate definition arguments params result r with
    ⟨e, hrun⟩ | ⟨d, d', ps, res, v, ht, hb, hrun⟩
  · rw [hrun]
    exact hr
  · rw [hrun]
    refine hr.intern fun d₁ hd₁ => ?_
    obtain rfl := Option.some.inj hd₁
    have hd' := (hr.declared ht rfl).of_bound ht rfl hb
    obtain rfl : v = false := hd'.delegate rfl
    exact hd'

end Coherent
end Registry

namespace Construction

theorem coherent_after {c : Construction} (hc : c.isRaw = false) {r : Registry} (hr : r.Coherent) :
    (c.after r).Coherent := by
  cases c with
  | raw d => cases hc
  | nested outer name arity isValue => exact hr.nested outer name arity isValue
  | instantiate definition arguments => exact hr.instantiate definition arguments
  | instantiateDelegate definition arguments params result =>
    exact hr.instantiateDelegate definition arguments params result
  | named | generic | enumeration | delegate =>
    refine hr.intern fun d hd => ?_
    obtain rfl := Option.some.inj hd
    exact .top _ _ _ (by simp [Form.kind])
  | builtin | array | parameter | nullable | record =>
    exact hr.intern fun d hd => by cases hd

end Construction

namespace Registry

def Built (r : Registry) : Prop :=
  ∃ cs : List Construction, (∀ c ∈ cs, c.isRaw = false) ∧ r = ofConstructions cs

namespace Built
variable {r r' : Registry} {c : Construction}

theorem reachable (hr : r.Built) : r.Reachable := by
  obtain ⟨cs, -, rfl⟩ := hr
  exact ⟨cs, rfl⟩

theorem after (hr : r.Built) (hc : c.isRaw = false) : (c.after r).Built := by
  obtain ⟨cs, hcs, rfl⟩ := hr
  refine ⟨cs ++ [c], fun c' hc' => ?_, (ofConstructions_append cs [c]).symm⟩
  rcases List.mem_append.1 hc' with hc' | hc'
  · exact hcs c' hc'
  · exact List.mem_singleton.1 hc' ▸ hc

theorem of_run {found : Except BuildError Handle} (hr : r.Built) (hc : c.isRaw = false)
    (hrun : c.perform.run r = (found, r')) : r'.Built := by
  have hafter : c.after r = r' := congrArg Prod.snd hrun
  exact hafter ▸ hr.after hc

/-- What holds of the empty registry and is kept by every construction that is not raw. -/
@[elab_as_elim]
theorem induction {P : Registry → Prop} (empty : P .empty)
    (after : ∀ (r : Registry) (c : Construction), r.Built → P r → c.isRaw = false → P (c.after r))
    (hr : r.Built) : P r := by
  obtain ⟨cs, hcs, rfl⟩ := hr
  induction cs using List.reverseRecOn with
  | nil => exact empty
  | append_singleton cs c ih =>
    have hcs' : ∀ c' ∈ cs, c'.isRaw = false := fun c' hc' => hcs c' (List.mem_append_left _ hc')
    rw [ofConstructions_append]
    exact after _ c ⟨cs, hcs', rfl⟩ (ih hcs')
      (hcs c (List.mem_append_right _ (List.mem_singleton_self c)))

theorem coherent (hr : r.Built) : r.Coherent :=
  hr.induction .empty fun _ _ _ hcoh hc => Construction.coherent_after hc hcoh

end Built
end Registry

end TypeBridge
