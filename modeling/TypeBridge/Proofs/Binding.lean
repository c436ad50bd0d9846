import TypeBridge.Proofs.Collections
import TypeBridge.Proofs.Origin
import TypeBridge.Proofs.Promotion

/-!
# What a binding can be read back from

`Binds r n a h` says that `h` is what the generic type `n` comes to when it is bound to `a`. The arguments
are read off from `h` (`Binds.arguments`). The type `n` is not, for `h` points to `n` only where `n` is not
bound itself; otherwise it points to the definition of `n`, like `n` does. But whether `n` is bound shows in
the type around it, which both have, and so `n` is found after all (`Built.eq_of_bound`).

There is one exception, by design. The generic type of optional values can be declared twice, as a type of
values and as a shared one, and neither is read back: what they are bound to is the optional form
(`Binds.of_declaresNullable`). So `instantiate_injective` has it as a second case, and
`nullable_has_one_handle` says what follows for the two ways to spell an optional type.
-/

namespace TypeBridge

namespace Registry

variable {r r' : Registry} {n n₁ n₂ h h₁ h₂ x : Handle} {a a₁ a₂ : List Handle}
  {d d' d₁ d₂ : Declared Handle} {isValue : Bool}

/-- The named type is the generic type of optional values: it has this name, and nothing around it. -/
def DeclaresNullable (r : Registry) (n : Handle) : Prop :=
  ∃ d, r.form? n = some (.named d) ∧ d.outer = none ∧ d.namespaceName = "System" ∧
    d.name = "Nullable" ∧ d.arity = 1

theorem declaresNullable_iff :
    r.DeclaresNullable n ↔ ∃ d, r.form? n = some (.named d) ∧ d.isNullable = true := by
  refine exists_congr fun d => and_congr_right fun _ => ?_
  simp only [Declared.isNullable, Bool.and_eq_true, Option.isNone_iff_eq_none, decide_eq_true_eq]
  tauto

theorem declaresNullable_iff_of_get? (hd : r.get? n = some ⟨.named d, isValue⟩) :
    r.DeclaresNullable n ↔ d.isNullable = true := by
  rw [declaresNullable_iff, form?_of_get? hd]
  simp

/-- The second type is what the first one comes to when its parameters are bound to the arguments. -/
def Binds (r : Registry) (n : Handle) (a : List Handle) (h : Handle) : Prop :=
  ∃ d d' isValue, r.get? n = some ⟨.named d, isValue⟩ ∧ r.bound n d a = .ok d' ∧
    r.get? h = some (boundDescriptor d' isValue)

/-- The type can be bound to the arguments: it is a generic type with a name and no arguments, and for each
of its parameters there is a known type. -/
def Bindable (r : Registry) (n : Handle) (a : List Handle) : Prop :=
  (∃ d, r.form? n = some (.named d) ∧ 0 < d.arity ∧ d.arguments = [] ∧ a.length = d.arity) ∧
    ∀ c ∈ a, c < r.size

theorem WellFormed.exists_run_instantiate_iff (hr : r.WellFormed) :
    (∃ h r', (instantiate n a).run r = (.ok h, r')) ↔ r.Bindable n a := by
  constructor
  · rintro ⟨h, r', hrun⟩
    rcases run_instantiate n a r with ⟨e, he⟩ | ⟨d, d', isValue, ht, hb, he⟩
    · cases hrun.symm.trans he
    · obtain ⟨hgeneric, -⟩ := bound_eq_ok_iff.1 hb
      have hrefs := hr.lt_size_of_run_intern (he.symm.trans hrun)
      exact ⟨⟨d, form?_of_get? ht, hgeneric⟩, fun c hc => hrefs c (mem_references_boundDescriptor hb hc)⟩
  · rintro ⟨⟨d, hf, hgeneric⟩, hargs⟩
    obtain ⟨⟨form, isValue⟩, ht, hform⟩ := form?_eq_some hf
    obtain rfl : form = .named d := hform
    obtain ⟨d', hb⟩ : ∃ d', r.bound n d a = .ok d' := ⟨_, bound_eq_ok_iff.2 ⟨hgeneric, rfl⟩⟩
    obtain ⟨h, r', hrun, -⟩ := exists_run_intern hr (hr.lt_size_of_boundDescriptor ht hb hargs)
    exact ⟨h, r', (run_instantiate_of_bound ht hb).trans hrun⟩

theorem Built.eq_of_bound (hr : r.Built) (hd₁ : r.get? n₁ = some ⟨.named d₁, isValue⟩)
    (hd₂ : r.get? n₂ = some ⟨.named d₂, isValue⟩) (hb₁ : r.bound n₁ d₁ a = .ok d')
    (hb₂ : r.bound n₂ d₂ a = .ok d') : n₁ = n₂ := by
  obtain ⟨⟨-, hargs₁, -⟩, hd'⟩ := bound_eq_ok_iff.1 hb₁
  obtain ⟨⟨-, hargs₂, -⟩, hd''⟩ := bound_eq_ok_iff.1 hb₂
  have hdeclared₁ : r.declared? n₁ = some d₁ := declared?_of_get? hd₁
  have hdeclared₂ : r.declared? n₂ = some d₂ := declared?_of_get? hd₂
  cases d₁ with | mk ns₁ name₁ outer₁ arity₁ args₁ u₁ =>
  cases d₂ with | mk ns₂ name₂ outer₂ arity₂ args₂ u₂ =>
  simp only at hargs₁ hargs₂
  simp only [hd', Declared.mk.injEq, Option.some.injEq, true_and] at hd''
  obtain ⟨rfl, rfl, rfl, rfl, hu⟩ := hd''
  subst hargs₁ hargs₂
  -- nothing but the type around decides whether they are bound, and it is the same
  have hsame := (hr.isBound_iff hdeclared₁ rfl).trans (hr.isBound_iff hdeclared₂ rfl).symm
  rcases u₁ with _ | u₁ <;> rcases u₂ with _ | u₂
  · simpa using hu
  · simp [Declared.isBound] at hsame
  · simp [Declared.isBound] at hsame
  · simp only [Option.getD_some] at hu
    exact hr.coherent.unique hd₁ (hu ▸ hd₂)

namespace Binds

theorem of_run (hr : r.WellFormed) (hrun : (instantiate n a).run r = (.ok h, r')) :
    r'.Binds n a h := by
  have hx := (instantiate_grows n a).extended hr
  rw [hrun] at hx
  rcases run_instantiate n a r with ⟨e, he⟩ | ⟨d, d', isValue, hd, hb, he⟩
  · cases hrun.symm.trans he
  · exact ⟨d, d', isValue, hx.get?_of_some hd, bound_eq_ok hb r', get?_of_run_intern hr (he.symm.trans hrun)⟩

theorem mono (hb : r.Binds n a h) (hx : r.Extends r') : r'.Binds n a h := by
  obtain ⟨d, d', isValue, hd, hb, hh⟩ := hb
  exact ⟨d, d', isValue, hx.get?_of_some hd, bound_eq_ok hb r', hx.get?_of_some hh⟩

theorem get?_cases (hb : r.Binds n a h) :
    (r.DeclaresNullable n ∧ ∃ x, a = [x] ∧ r.get? h = some ⟨.nullable x, true⟩) ∨
    ¬ r.DeclaresNullable n ∧ ∃ d d' isValue, r.get? n = some ⟨.named d, isValue⟩ ∧
      r.bound n d a = .ok d' ∧ r.get? h = some ⟨.named d', isValue⟩ := by
  obtain ⟨d, d', isValue, hd, hb, hh⟩ := hb
  rw [declaresNullable_iff_of_get? hd]
  rcases boundDescriptor_cases hb with ⟨hn, x, ha, hform⟩ | ⟨hn, hform⟩
  · exact .inl ⟨hn, x, ha, by rw [hh, hform]⟩
  · exact .inr ⟨by simp [hn], d, d', isValue, hd, hb, by rw [hh, hform]⟩

theorem arguments (hb : r.Binds n a h) : r.arguments h = a := by
  rcases hb.get?_cases with ⟨-, x, rfl, hh⟩ | ⟨-, d, d', isValue, -, hb, hh⟩
  · rw [Registry.arguments, hh]
    rfl
  · obtain ⟨-, rfl⟩ := bound_eq_ok_iff.1 hb
    exact arguments_of_declared? (declared?_of_get? hh)

theorem of_declaresNullable (hb : r.Binds n [x] h) (hn : r.DeclaresNullable n) :
    r.get? h = some ⟨.nullable x, true⟩ := by
  rcases hb.get?_cases with ⟨-, y, hy, hh⟩ | ⟨hn', -⟩
  · rw [hh, (List.cons.inj hy).1]
  · exact absurd hn hn'

/-- Two bindings come to one type when they bind the same type to the same arguments, or both an optional
one. -/
theorem eq_iff (hr : r.Built) (hb₁ : r.Binds n₁ a₁ h₁) (hb₂ : r.Binds n₂ a₂ h₂) :
    h₁ = h₂ ↔ a₁ = a₂ ∧ (n₁ = n₂ ∨ r.DeclaresNullable n₁ ∧ r.DeclaresNullable n₂) := by
  constructor
  · intro hh
    have ha : a₁ = a₂ := by rw [← hb₁.arguments, ← hb₂.arguments, hh]
    subst hh ha
    refine ⟨rfl, ?_⟩
    rcases hb₁.get?_cases with ⟨hn₁, x, -, hh₁⟩ | ⟨-, d₁, d', v, hd₁, hb₁, hh₁⟩ <;>
      rcases hb₂.get?_cases with ⟨hn₂, y, -, hh₂⟩ | ⟨-, d₂, d'', v', hd₂, hb₂, hh₂⟩ <;>
      cases hh₁.symm.trans hh₂
    · exact .inr ⟨hn₁, hn₂⟩
    · exact .inl (hr.eq_of_bound hd₁ hd₂ hb₁ hb₂)
  · rintro ⟨rfl, rfl | ⟨hn₁, hn₂⟩⟩
    · obtain ⟨d, d', isValue, hd, hb, hh₁⟩ := hb₁
      obtain ⟨_, _, _, hd₂, hb₂, hh₂⟩ := hb₂
      cases hd.symm.trans hd₂
      cases hb.symm.trans hb₂
      exact hr.coherent.unique hh₁ hh₂
    · rcases hb₁.get?_cases with ⟨-, x, rfl, hh₁⟩ | ⟨hn₁', -⟩
      · exact hr.coherent.unique hh₁ (hb₂.of_declaresNullable hn₂)
      · exact absurd hn₁ hn₁'

end Binds

/-- Bindings are told apart. Two of them, made one after the other with any other constructions before,
between and after them, come to the same handle just when they bind the same generic type to the same
arguments, or declarations of the generic type of optional values to the same argument. And from then on, the
arguments of each are those that it was given. -/
theorem instantiate_injective {r₁ r₂ r₃ : Registry} (hr : r.Built)
    (hrun₁ : (instantiate n₁ a₁).run r = (.ok h₁, r₁)) (hlater : r₁.Later r₂)
    (hrun₂ : (instantiate n₂ a₂).run r₂ = (.ok h₂, r₃)) :
    (h₁ = h₂ ↔ a₁ = a₂ ∧ (n₁ = n₂ ∨ r₃.DeclaresNullable n₁ ∧ r₃.DeclaresNullable n₂)) ∧
    ∀ r₄, r₃.Later r₄ → r₄.arguments h₁ = a₁ ∧ r₄.arguments h₂ = a₂ := by
  have hr₃ : r₃.Built := hlater.built.of_run (c := .instantiate n₂ a₂) rfl hrun₂
  have hx : r₂.Extends r₃ := by
    have hx := (instantiate_grows n₂ a₂).extended hlater.built.coherent.toWellFormed
    rwa [hrun₂] at hx
  have hb₁ : r₃.Binds n₁ a₁ h₁ :=
    (Binds.of_run hr.coherent.toWellFormed hrun₁).mono (hlater.extended.trans hx)
  have hb₂ : r₃.Binds n₂ a₂ h₂ := .of_run hlater.built.coherent.toWellFormed hrun₂
  exact ⟨hb₁.eq_iff hr₃ hb₂, fun r₄ h₄ =>
    ⟨(hb₁.mono h₄.extended).arguments, (hb₂.mono h₄.extended).arguments⟩⟩

/-- The type inside a bound box and the one inside the box itself have the same name, and the former points
to the latter. Bound to the same argument they point to the same definition, but they stay two types. -/
theorem instantiate_injective_twins :
    let r := ofConstructions [.builtin .int32, .builtin .string, .generic "Lib" "Box" 1 false,
      .instantiate 2 [0], .nested 3 "Item" 1 false]
    let r₁ := (Construction.instantiate 5 [1]).after r
    let r₂ := (Construction.instantiate 4 [1]).after r₁
    (instantiate 5 [1]).run r = (.ok 6, r₁) ∧ (instantiate 4 [1]).run r₁ = (.ok 7, r₂) ∧
      r₂.definition? 6 = r₂.definition? 7 ∧ r₂.arguments 6 = r₂.arguments 7 ∧
      ¬ (r₂.DeclaresNullable 5 ∧ r₂.DeclaresNullable 4) := by
  intro r r₁ r₂
  have hr : r.Built := ⟨_, by decide, rfl⟩
  have hrun₁ : (instantiate 5 [1]).run r = (.ok 6, r₁) := Prod.ext (by decide +kernel) rfl
  have hrun₂ : (instantiate 4 [1]).run r₁ = (.ok 7, r₂) := Prod.ext (by decide +kernel) rfl
  have hr₁ : r₁.Built := hr.after rfl
  have hr₂ : r₂.Built := hr₁.after rfl
  obtain ⟨hsame, harguments⟩ := instantiate_injective hr hrun₁ ⟨.refl r₁, hr₁⟩ hrun₂
  obtain ⟨ha₁, ha₂⟩ := harguments r₂ ⟨.refl r₂, hr₂⟩
  refine ⟨hrun₁, hrun₂, by decide +kernel, ha₁.trans ha₂.symm, fun hn => ?_⟩
  cases hsame.2 ⟨rfl, .inr hn⟩

/-! ### Optional types -/

theorem Built.run_instantiate_of_declaresNullable (hr : r.Built) (hn : r.DeclaresNullable n)
    (x : Handle) : (instantiate n [x]).run r = (nullable x).run r := by
  obtain ⟨d, hf, hnullable⟩ := declaresNullable_iff.1 hn
  obtain ⟨_, hf', -, -, -, harity⟩ := hn
  obtain rfl := Form.named.inj (Option.some.inj (hf.symm.trans hf'))
  obtain ⟨⟨form, isValue⟩, ht, hform⟩ := form?_eq_some hf
  obtain rfl : form = .named d := hform
  have hb : r.bound n d [x] = .ok { d with arguments := [x], definition := some (d.definition.getD n) } :=
    bound_eq_ok_iff.2 ⟨⟨by omega, hr.arguments_of_isNullable hf hnullable, by simp [harity]⟩, rfl⟩
  rw [run_instantiate_of_bound ht hb]
  rcases boundDescriptor_cases hb with ⟨-, y, hy, hdesc⟩ | ⟨hn', -⟩
  · rw [hdesc, ← (List.cons.inj hy).1]
    rfl
  · cases hnullable.symm.trans hn'

theorem WellFormed.depth?_of_nullable (hr : r.WellFormed)
    (ht : r.get? h = some ⟨.nullable x, isValue⟩) : r.depth? h = (r.depth? x).map (· + 1) := by
  have hx : x < r.size := hr.references_lt_size ht x (List.mem_singleton_self x)
  obtain ⟨depth, hdepth⟩ := hr.exists_depth?_of_lt hx
  rw [hr.depth ht, hdepth]
  simp [depthOf, Descriptor.references, Form.references, hdepth]

end Registry

namespace Mapper

variable {m : Mapper} {h x : Handle}

/-- All that the optional form of another type is known by, whatever overrides there are. -/
structure IsOptionalOf (m : Mapper) (h x : Handle) : Prop where
  display : m.registry.display h = m.registry.display x ++ "?"
  canonicalName : m.registry.canonicalName h = "System.Nullable<>"
  depth : m.registry.depth? h = (m.registry.depth? x).map (· + 1)
  promoted : m.Admits h → Memo.fresh (m.needsPromotion h).run = .ok true
  written : m.Admits h → ∃ text, m.Writes x text ∧
    Memo.fresh (m.map h).run = .ok (.written (Target.optional text))

theorem isOptionalOf_of_get? (hr : m.registry.WellFormed)
    (ht : m.registry.get? h = some ⟨.nullable x, true⟩) : m.IsOptionalOf h x := by
  have hf : m.registry.form? h = some (.nullable x) := Registry.form?_of_get? ht
  have hvalue : m.registry.isValue h = true := by rw [Registry.isValue, ht, Option.any_some]
  refine ⟨Registry.display_of_nullable hr ht, Registry.canonicalName_of_nullable ht,
    hr.depth?_of_nullable ht, fun ha => ?_, fun ha => ?_⟩
  · rw [fresh_needsPromotion hr hvalue ha, isNativeValue_spelling_of_nullable hr hf]
    rfl
  · refine ⟨_, writes_of_admits hr ((DependsOn.inner hf).admits hr ha), ?_⟩
    rw [fresh_map hr ha, spelling_of_nullable hr hf]

end Mapper

namespace Registry

variable {r : Registry}

/-- There is one optional form of each type, however it is asked for. No named type that stands for the
generic type of optional values has arguments. This generic type can be declared, as a type of values or as
a shared one; and from then on binding any declaration of it to a type gives the handle that the optional
form has, and the same registry, whichever of the two is asked for first, and at any time later. So there is
nothing in which the two could differ. -/
theorem nullable_has_one_handle (hr : r.Built) :
    (∀ h d, r.form? h = some (.named d) → d.outer = none → d.namespaceName = "System" →
      d.name = "Nullable" → d.arity = 1 → d.arguments = []) ∧
    (∀ isValue, ∃ n r₁, (generic "System" "Nullable" 1 isValue).run r = (.ok n, r₁) ∧
      r.Later r₁ ∧ r₁.DeclaresNullable n) ∧
    ∀ x < r.size, ∃ h r₁, (nullable x).run r = (.ok h, r₁) ∧ r.Later r₁ ∧
      (∀ n, r.DeclaresNullable n → (instantiate n [x]).run r = (.ok h, r₁)) ∧
      ∀ m : Mapper, r₁.Later m.registry →
        (nullable x).run m.registry = (.ok h, m.registry) ∧
        (∀ n, m.registry.DeclaresNullable n →
          (instantiate n [x]).run m.registry = (.ok h, m.registry)) ∧
        m.IsOptionalOf h x := by
  refine ⟨fun h d hf houter hns hname harity => ?_, fun isValue => ?_, fun x hx => ?_⟩
  · exact hr.arguments_of_isNullable hf (by simp [Declared.isNullable, houter, hns, hname, harity])
  · obtain ⟨n, r₁, hrun, hext, -, ht⟩ := hr.coherent.adds_generic "System" "Nullable" 1 isValue
    exact ⟨n, r₁, hrun, ⟨hext, hr.of_run (c := .generic "System" "Nullable" 1 isValue) rfl hrun⟩,
      _, form?_of_get? ht, rfl, rfl, rfl, rfl⟩
  · obtain ⟨h, r₁, hrun, hext, -, ht⟩ := hr.coherent.adds_intern (t := ⟨.nullable x, true⟩)
      (fun c hc => List.mem_singleton.1 hc ▸ hx) fun d hd => by cases hd
    have hr₁ : r₁.Built := hr.of_run (c := .nullable x) rfl hrun
    refine ⟨h, r₁, hrun, ⟨hext, hr₁⟩,
      fun n hn => (hr.run_instantiate_of_declaresNullable hn x).trans hrun, fun m hm => ?_⟩
    have hwf := hm.built.coherent.toWellFormed
    have hagain : (nullable x).run m.registry = (.ok h, m.registry) :=
      run_intern_of_get? hwf (hm.extended.get?_of_some ht)
    exact ⟨hagain, fun n hn => (hm.built.run_instantiate_of_declaresNullable hn x).trans hagain,
      Mapper.isOptionalOf_of_get? hwf (hm.extended.get?_of_some ht)⟩

/-- The optional integer, bound from a declaration as a type of values; and again, when there is another
declaration of the same name that is shared. -/
theorem nullable_has_one_handle_integer :
    let r := ofConstructions [.builtin .int32, .generic "System" "Nullable" 1 true]
    let m : Mapper := { registry := ofConstructions [.builtin .int32,
      .generic "System" "Nullable" 1 true, .instantiate 1 [0], .generic "System" "Nullable" 1 false] }
    ((instantiate 1 [0]).run r).1 = .ok 2 ∧
      (instantiate 3 [0]).run m.registry = (.ok 2, m.registry) ∧
      m.registry.display 2 = "int?" ∧
      Memo.fresh (m.map 2).run = .ok (.written "Nullable_Int") := by
  intro r m
  have hr : r.Built := ⟨_, by decide, rfl⟩
  let r₁ := (Construction.instantiate 1 [0]).after r
  have hr₁ : r₁.Built := hr.after rfl
  have hm : r₁.Later m.registry :=
    ⟨(Construction.generic "System" "Nullable" 1 false).extends_after hr₁.coherent.toWellFormed,
      hr₁.after (c := .generic "System" "Nullable" 1 false) rfl⟩
  have hrun : (instantiate 1 [0]).run r = (.ok 2, r₁) := Prod.ext (by decide +kernel) rfl
  obtain ⟨-, -, hone⟩ := nullable_has_one_handle hr
  obtain ⟨h, r', -, -, hbind, hlater⟩ := hone 0 (by decide +kernel)
  have hvalue : r.DeclaresNullable 1 :=
    ⟨{ namespaceName := "System", name := "Nullable", arity := 1 }, by decide +kernel, rfl, rfl, rfl, rfl⟩
  cases hrun.symm.trans (hbind 1 hvalue)
  obtain ⟨-, hagain, hshown⟩ := hlater m hm
  have hshared : m.registry.DeclaresNullable 3 :=
    ⟨{ namespaceName := "System", name := "Nullable", arity := 1 }, by decide +kernel, rfl, rfl, rfl, rfl⟩
  have hinteger : Memo.fresh (m.map 0).run = .ok (.written "Int") := by decide +kernel
  obtain ⟨text, htext, hwritten⟩ := hshown.written ⟨1, by decide +kernel, by decide⟩
  obtain rfl : text = "Int" := htext.unique (.inl hinteger)
  refine ⟨by rw [hrun], hagain 3 hshared, ?_, hwritten⟩
  rw [hshown.display]
  decide +kernel

end Registry
end TypeBridge
