import TypeBridge.Proofs.Readers

/-!
# Spelling the same type in two registries

Two mappers are `Alike` when they have the same rules and name a record type that both registries
hold in the same way. They give a type the same outline, up to the numbering of its holes
(`SameType.outline_map`), and therefore the same spelling (`SameType.spelling`).
-/

namespace TypeBridge

open Registry

/-- The mappers follow the same rules, and give a record type that both registries have one name. -/
structure Mapper.Alike (m₁ m₂ : Mapper) : Prop where
  overrides : m₁.overrides = m₂.overrides
  fallback : m₁.fallback = m₂.fallback
  nameRecord : ∀ a b ms₁ ms₂, SameType m₁.registry a m₂.registry b →
    m₁.registry.form? a = some (.record ms₁) → m₂.registry.form? b = some (.record ms₂) →
    m₁.nameRecord m₁.registry a ms₁ = m₂.nameRecord m₂.registry b ms₂

namespace Registry.SameType

variable {m₁ m₂ : Mapper} {a b : Handle}

theorem override? (hm : m₁.Alike m₂) (h : SameType m₁.registry a m₂.registry b) :
    m₁.override? a = m₂.override? b := by
  rw [Mapper.override?, Mapper.override?, hm.overrides, h.canonicalName]

theorem isByte (h : SameType m₁.registry a m₂.registry b) : m₁.isByte a = m₂.isByte b := by
  unfold Mapper.isByte
  rcases h.get?_cases with ⟨ha, hb⟩ | ⟨d₁, d₂, ha, hb, hd⟩
  · rw [ha, hb]
  · have hbuiltin := congrArg Form.builtin? (form_map hd)
    rw [Form.builtin?_map, Form.builtin?_map] at hbuiltin
    rw [ha, hb, Option.any_some, Option.any_some, hbuiltin]

theorem expansion?_map (hm : m₁.Alike m₂) (h : SameType m₁.registry a m₂.registry b) :
    (m₁.expansion? a).map (Prod.map m₁.registry.unfolding (List.map m₁.registry.unfolding)) =
      (m₂.expansion? b).map (Prod.map m₂.registry.unfolding (List.map m₂.registry.unfolding)) := by
  have hargs := h.writtenArguments_map
  unfold Mapper.expansion?
  rw [h.isBoundGeneric, h.override? hm]
  split_ifs with hc
  · rcases option_cases h.definition?_map with ⟨hd₁, hd₂⟩ | ⟨d₁, d₂, hd₁, hd₂, hd⟩
    · simp only [hd₁, hd₂, Option.map_none]
    · simp only [hd₁, hd₂]
      cases hw₁ : m₁.registry.writtenArguments a <;> cases hw₂ : m₂.registry.writtenArguments b <;>
        simp only [hw₁, hw₂, List.map_nil, List.map_cons, reduceCtorEq] at hargs
      · rfl
      · simp only [Option.map_some, Prod.map_apply, List.map_cons, hd, hargs]
  · rfl

theorem namedOutline_map (hm : m₁.Alike m₂) (h : SameType m₁.registry a m₂.registry b) :
    (m₁.namedOutline a).map m₁.registry.unfolding =
      (m₂.namedOutline b).map m₂.registry.unfolding := by
  unfold Mapper.namedOutline
  rcases option_cases (h.expansion?_map hm) with ⟨hx₁, hx₂⟩ | ⟨e₁, e₂, hx₁, hx₂, he⟩
  · -- no arguments are written: the name decides
    simp only [hx₁, hx₂]
    rw [h.canonicalName, h.declaredName, h.override? hm]
    cases standardSpelling? (m₂.registry.canonicalName b) with
    | some s => rfl
    | none =>
      cases m₂.override? b with
      | none => rfl
      | some o =>
        by_cases ho : o.rule.usesArguments
        · simp only [ho, if_true, Outline.map, h.writtenArguments_map]
        · simp only [ho]
          rfl
  · obtain ⟨hdef, hargs⟩ := Prod.mk.inj he
    simp only [hx₁, hx₂, Outline.map, hdef, hargs]

/-- The outlines look the same once their holes are written out. -/
theorem outline_map (hm : m₁.Alike m₂) (h : SameType m₁.registry a m₂.registry b) :
    (m₁.outline a).map m₁.registry.unfolding = (m₂.outline b).map m₂.registry.unfolding := by
  unfold Mapper.outline
  rcases h.get?_cases with ⟨ha, hb⟩ | ⟨⟨form₁, v₁⟩, ⟨form₂, v₂⟩, ha, hb, hd⟩
  · simp only [ha, hb, Outline.map]
  have hf : form₁.map m₁.registry.unfolding = form₂.map m₂.registry.unfolding := form_map hd
  simp only [ha, hb]
  cases form₁ <;> cases form₂ <;> simp only [Form.map, reduceCtorEq] at hf
  case builtin.builtin => exact h.namedOutline_map hm
  case named.named => exact h.namedOutline_map hm
  case parameter.parameter => rw [Form.parameter.inj hf]; rfl
  case enumeration.enumeration => rfl
  case nullable.nullable => exact congrArg Outline.nullable (Form.nullable.inj hf)
  case delegate.delegate =>
    obtain ⟨-, hparams, hresult⟩ := Form.delegate.inj hf
    exact congrArg₂ Outline.function hparams hresult
  case array.array e₁ e₂ =>
    have he : SameType m₁.registry e₁ m₂.registry e₂ := ⟨h.left, h.right, Form.array.inj hf⟩
    simp only [he.isByte]
    split_ifs
    · rfl
    · exact congrArg Outline.array he.tree
  case record.record ms₁ ms₂ =>
    have hname := hm.nameRecord a b ms₁ ms₂ h (by simp [form?, ha]) (by simp [form?, hb])
    exact congrArg (fun name => Outline.fixed (.written name)) hname

theorem spelling (hm : m₁.Alike m₂) (h : SameType m₁.registry a m₂.registry b) :
    m₁.spelling a = m₂.spelling b := by
  rcases h.get?_cases with ⟨ha, hb⟩ | ⟨d₁, d₂, ha, -, -⟩
  · rw [Mapper.spelling_eq h.left, Mapper.spelling_eq h.right]
    simp only [Mapper.spellingFrom, Mapper.outline, ha, hb, Outline.map, Outline.spelling]
  refine h.induction (P := fun a b => m₁.spelling a = m₂.spelling b)
    (fun a b _ _ hab _ _ _ ih => ?_) (get?_eq_some_lt ha)
  rw [Mapper.spelling_eq h.left, Mapper.spelling_eq h.right, Mapper.spellingFrom,
    Mapper.spellingFrom, hm.fallback]
  refine congrArg (Outline.spelling m₂.fallback) ?_
  refine Outline.map_eq_map (hab.outline_map hm) fun c₁ hc₁ c₂ hc₂ hc => ?_
  rw [ih c₁ (Mapper.hole_lt h.left hc₁) c₂ (Mapper.hole_lt h.right hc₂) hc]

end Registry.SameType
end TypeBridge
