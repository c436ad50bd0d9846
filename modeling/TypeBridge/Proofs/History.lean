import TypeBridge.Proofs.Calls
import TypeBridge.Proofs.RecordName
import TypeBridge.Proofs.SameSpelling

/-!
# A type does not remember how it was built

What is read off a type, and how it is mapped, depends on the type alone. Registries may have come
by it through other constructions, in another order, beside other types and under another handle;
they agree on it (`independent_of_history`).
-/

namespace TypeBridge

/-- Both calls answer the same, or both are refused for the depth of the type they were asked for. -/
def SameOutcome {α : Type} (limit : Nat) (a b : Handle) (x y : Except MappingError α) : Prop :=
  (∃ v, x = .ok v ∧ y = .ok v) ∨
    x = .error (.depthExceeded limit a) ∧ y = .error (.depthExceeded limit b)

theorem SameOutcome.map {α β : Type} {limit : Nat} {a b : Handle} {x y : Except MappingError α}
    (k : α → β) (h : SameOutcome limit a b x y) : SameOutcome limit a b (k <$> x) (k <$> y) := by
  rcases h with ⟨v, rfl, rfl⟩ | ⟨rfl, rfl⟩
  · exact .inl ⟨k v, rfl, rfl⟩
  · exact .inr ⟨rfl, rfl⟩

/-- The mapper for a registry that names record types after their members. -/
def Registry.mapper (r : Registry) (overrides : Overrides) (maxDepth : Nat) (fallback : String) :
    Mapper :=
  { registry := r, overrides, maxDepth, fallback }

/-- The registries give the same answers about `a` and `b`. -/
structure Registry.Agree (r₁ : Registry) (a : Handle) (r₂ : Registry) (b : Handle) : Prop where
  depth : r₁.depth? a = r₂.depth? b
  value : r₁.isValue a = r₂.isValue b
  generic : r₁.isGeneric a = r₂.isGeneric b
  unbound : r₁.isUnbound a = r₂.isUnbound b
  display : r₁.display a = r₂.display b
  canonicalName : r₁.canonicalName a = r₂.canonicalName b
  mapped : ∀ overrides maxDepth fallback, SameOutcome maxDepth a b
    (Memo.fresh ((r₁.mapper overrides maxDepth fallback).map a).run)
    (Memo.fresh ((r₂.mapper overrides maxDepth fallback).map b).run)
  promoted : ∀ overrides maxDepth fallback, SameOutcome maxDepth a b
    (Memo.fresh ((r₁.mapper overrides maxDepth fallback).needsPromotion a).run)
    (Memo.fresh ((r₂.mapper overrides maxDepth fallback).needsPromotion b).run)

namespace Registry
namespace SameType

variable {r₁ r₂ : Registry} {m₁ m₂ : Mapper} {a b : Handle}

/-- Record types are named after their member names, which are part of the type. -/
theorem recordName {ms₁ ms₂ : List (String × Handle)} (h : SameType r₁ a r₂ b)
    (ha : r₁.form? a = some (.record ms₁)) (hb : r₂.form? b = some (.record ms₂)) :
    recordName ms₁ = recordName ms₂ := by
  obtain ⟨d₁, hd₁, hf₁⟩ := form?_eq_some ha
  obtain ⟨d₂, hd₂, hf₂⟩ := form?_eq_some hb
  have hf := h.get?_map
  rw [hd₁, hd₂] at hf
  have hmembers := form_map (Option.some.inj hf)
  rw [hf₁, hf₂] at hmembers
  have hnames := congrArg (List.map Prod.fst) (Form.record.inj hmembers)
  simp only [List.map_map, Function.comp_def] at hnames
  exact recordName_congr hnames

theorem answer (hm : m₁.Alike m₂) (hlimit : m₁.maxDepth = m₂.maxDepth)
    (h : SameType m₁.registry a m₂.registry b) (ha : a < m₁.registry.size) :
    SameOutcome m₂.maxDepth a b (m₁.answer m₁.spelling a) (m₂.answer m₂.spelling b) := by
  cases hd : m₁.registry.depth? a with
  | none => exact absurd ha (Nat.not_lt.2 (h.left.depth?_eq_none_iff.1 hd))
  | some depth =>
    unfold Mapper.answer
    simp only [hd, ← h.depth?, hlimit, h.spelling hm]
    split_ifs
    · exact .inr ⟨rfl, rfl⟩
    · exact .inl ⟨_, rfl, rfl⟩

theorem promotionAnswer (hm : m₁.Alike m₂) (hlimit : m₁.maxDepth = m₂.maxDepth)
    (h : SameType m₁.registry a m₂.registry b) (ha : a < m₁.registry.size) :
    SameOutcome m₂.maxDepth a b (m₁.promotionAnswer m₁.spelling a)
      (m₂.promotionAnswer m₂.spelling b) := by
  rcases h.get?_cases with ⟨hd, -⟩ | ⟨d₁, d₂, hd₁, hd₂, hd⟩
  · exact absurd ha (Nat.not_lt.2 (get?_eq_none_iff.1 hd))
  have hv := congrArg Descriptor.isValue hd
  simp only [Descriptor.map] at hv
  simp only [Mapper.promotionAnswer, find, hd₁, hd₂, hv]
  split_ifs
  · exact (h.answer hm hlimit ha).map _
  · exact .inl ⟨false, rfl, rfl⟩

theorem agree (h : SameType r₁ a r₂ b) (ha : a < r₁.size) : Agree r₁ a r₂ b := by
  have hm (overrides maxDepth fallback) :
      (r₁.mapper overrides maxDepth fallback).Alike (r₂.mapper overrides maxDepth fallback) :=
    ⟨rfl, rfl, fun _ _ _ _ h' ha' hb' => h'.recordName ha' hb'⟩
  refine ⟨h.depth?, h.isValue, h.isGeneric, h.isUnbound, h.display, h.canonicalName,
    fun overrides maxDepth fallback => ?_, fun overrides maxDepth fallback => ?_⟩
  · rw [(Mapper.computes_map h.left a).fresh h.left, (Mapper.computes_map h.right b).fresh h.right]
    exact answer (hm ..) rfl h ha
  · rw [(Mapper.computes_needsPromotion h.left a).fresh h.left,
      (Mapper.computes_needsPromotion h.right b).fresh h.right]
    exact promotionAnswer (hm ..) rfl h ha

end SameType

variable {r₁ r₂ : Registry} {a : Handle}

/-- However two registries were built, they agree on every type that both hold. So all that is said
of a type stays as it is through further constructions. -/
theorem independent_of_history (h₁ : r₁.Reachable) (ha : a < r₁.size) :
    (∀ r₂ b, r₂.Reachable → r₁.unfolding a = r₂.unfolding b → Agree r₁ a r₂ b) ∧
    ∀ later, Agree r₁ a (r₁.afterAll later) a := by
  have hr := h₁.wellFormed
  refine ⟨fun r₂ b h₂ hu => SameType.agree ⟨hr, h₂.wellFormed, hu⟩ ha, fun later => ?_⟩
  obtain ⟨hx, hr'⟩ := afterAll_grows hr later
  exact (SameType.of_extends hr hr' hx ha).agree ha

/-- An array of strings, built after another type in one registry and alone in the other. -/
theorem independent_of_history_string_array :
    let r₁ := ofConstructions [.builtin .int32, .builtin .string, .array 1]
    let r₂ := ofConstructions [.builtin .string, .array 0]
    r₁.unfolding 2 = r₂.unfolding 1 ∧ Agree r₁ 2 r₂ 1 := by
  intro r₁ r₂
  have h₁ : r₁.Reachable := ⟨_, rfl⟩
  have h₂ : r₂.Reachable := ⟨_, rfl⟩
  have hstring₁ : r₁.get? 1 = some ⟨.builtin .string, false⟩ := by decide +kernel
  have hstring₂ : r₂.get? 0 = some ⟨.builtin .string, false⟩ := by decide +kernel
  have harray₁ : r₁.get? 2 = some ⟨.array 1, false⟩ := by decide +kernel
  have harray₂ : r₂.get? 1 = some ⟨.array 0, false⟩ := by decide +kernel
  have hu : r₁.unfolding 2 = r₂.unfolding 1 := by
    rw [unfolding_of_get? h₁.wellFormed harray₁, unfolding_of_get? h₂.wellFormed harray₂]
    simp only [Descriptor.map, Form.map, unfolding_of_get? h₁.wellFormed hstring₁,
      unfolding_of_get? h₂.wellFormed hstring₂]
  exact ⟨hu, (independent_of_history h₁ (by decide +kernel)).1 r₂ 1 h₂ hu⟩

end Registry
end TypeBridge
