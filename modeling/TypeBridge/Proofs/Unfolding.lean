import TypeBridge.Proofs.Layer
import TypeBridge.Proofs.RegistryInv

/-!
# Handles and types

`Registry.unfolding` writes a type out: its descriptor, with every reference replaced by what it
refers to, down to the types that refer to nothing. In a well-formed registry handles and types are
in bijection (`unfolding_inj`), since equal trees have equal top layers and, by induction, equal
references below them.

`SameType` compares the types that two registries hold under handles of their own, and
`SameType.induction` is the induction for both at once: what is to be shown of two handles may be
assumed of all earlier handles with one type. It is the way to everything that depends on the type
and not on the numbering.
-/

namespace TypeBridge

/-- A type written out: a descriptor with types in the place of its references. -/
inductive TypeTree
  | node (layer : Descriptor TypeTree)
  /-- What a handle stands for that a registry does not have. -/
  | absent

namespace Registry

def unfolding (r : Registry) : Handle → TypeTree :=
  r.fold .absent fun _ d earlier => .node (d.map earlier)

variable {r r' r₁ r₂ : Registry} {a b h : Handle} {d : Descriptor Handle}

/-- What is read off a layer is read without regard to the order of handles, since references point back. -/
theorem WellFormed.fold_eq_layer {α : Type} {absent : α}
    {step : Handle → Descriptor Handle → (Handle → α) → α} (hr : r.WellFormed) (hd : r.get? h = some d)
    (layer : Descriptor α → α) (hstep : ∀ earlier, step h d earlier = layer (d.map earlier)) :
    r.fold absent step h = layer (d.map (r.fold absent step)) := by
  rw [fold_of_get? hd, hstep]
  exact congrArg layer (Descriptor.map_congr fun c hc => if_pos (hr.references_lt hd c hc))

theorem unfolding_of_get? (hr : r.WellFormed) (hd : r.get? h = some d) :
    r.unfolding h = .node (d.map r.unfolding) :=
  hr.fold_eq_layer hd TypeTree.node fun _ => rfl

theorem unfolding_eq_absent_iff (hr : r.WellFormed) : r.unfolding h = .absent ↔ r.size ≤ h := by
  rw [← get?_eq_none_iff]
  cases hd : r.get? h with
  | none => simp [unfolding, fold_of_get?_eq_none hd]
  | some d => simp [unfolding_of_get? hr hd]

/-- The registries have the same type under the handles `a` and `b`. -/
structure SameType (r₁ : Registry) (a : Handle) (r₂ : Registry) (b : Handle) : Prop where
  left : r₁.WellFormed
  right : r₂.WellFormed
  tree : r₁.unfolding a = r₂.unfolding b

namespace SameType

theorem lt_size_iff (h : SameType r₁ a r₂ b) : a < r₁.size ↔ b < r₂.size := by
  rw [← Nat.not_le, ← Nat.not_le, ← unfolding_eq_absent_iff h.left,
    ← unfolding_eq_absent_iff h.right, h.tree]

theorem get?_map (h : SameType r₁ a r₂ b) :
    (r₁.get? a).map (·.map r₁.unfolding) = (r₂.get? b).map (·.map r₂.unfolding) := by
  cases ha : r₁.get? a with
  | none =>
    have hb : r₂.size ≤ b := Nat.not_lt.1 fun hb =>
      absurd (h.lt_size_iff.2 hb) (Nat.not_lt.2 (get?_eq_none_iff.1 ha))
    rw [get?_eq_none_iff.2 hb, Option.map_none, Option.map_none]
  | some d₁ =>
    obtain ⟨d₂, hb⟩ := exists_get?_of_lt (h.lt_size_iff.1 (get?_eq_some_lt ha))
    have ht := h.tree
    rw [unfolding_of_get? h.left ha, unfolding_of_get? h.right hb] at ht
    rw [hb, Option.map_some, Option.map_some, TypeTree.node.inj ht]

theorem get?_cases (h : SameType r₁ a r₂ b) :
    (r₁.get? a = none ∧ r₂.get? b = none) ∨
    ∃ d₁ d₂, r₁.get? a = some d₁ ∧ r₂.get? b = some d₂ ∧
      d₁.map r₁.unfolding = d₂.map r₂.unfolding :=
  option_cases h.get?_map

/-- Induction on a type that two registries hold. All earlier handles with the same type may be
assumed, not only the references. -/
theorem induction {P : Handle → Handle → Prop}
    (step : ∀ a b d₁ d₂, SameType r₁ a r₂ b → r₁.get? a = some d₁ → r₂.get? b = some d₂ →
      d₁.map r₁.unfolding = d₂.map r₂.unfolding →
      (∀ c₁ < a, ∀ c₂ < b, r₁.unfolding c₁ = r₂.unfolding c₂ → P c₁ c₂) → P a b)
    (h : SameType r₁ a r₂ b) (ha : a < r₁.size) : P a b := by
  induction a using Nat.strongRecOn generalizing b with
  | ind a ih =>
    rcases h.get?_cases with ⟨hd₁, -⟩ | ⟨d₁, d₂, hd₁, hd₂, hd⟩
    · exact absurd (get?_eq_none_iff.1 hd₁) (Nat.not_le.2 ha)
    · exact step a b d₁ d₂ h hd₁ hd₂ hd fun c₁ hc₁ c₂ _ hc =>
        ih c₁ hc₁ ⟨h.left, h.right, hc⟩ (Nat.lt_trans hc₁ ha)

end SameType

theorem unfolding_inj (hr : r.WellFormed) (ha : a < r.size) :
    r.unfolding a = r.unfolding b ↔ a = b := by
  refine ⟨fun hu => SameType.induction (fun a b d₁ d₂ _ hd₁ hd₂ hd ih => ?_) ⟨hr, hr, hu⟩ ha,
    fun h => h ▸ rfl⟩
  have hid : d₁.map id = d₂.map id := Descriptor.map_eq_map hd fun c₁ hc₁ c₂ hc₂ hc =>
    ih c₁ (hr.references_lt hd₁ c₁ hc₁) c₂ (hr.references_lt hd₂ c₂ hc₂) hc
  rw [Descriptor.map_id, Descriptor.map_id] at hid
  exact hr.unique hd₁ (hid ▸ hd₂)

theorem Extends.unfolding (hx : r.Extends r') (hr : r.WellFormed) (hr' : r'.WellFormed)
    (hh : h < r.size) : r'.unfolding h = r.unfolding h := by
  induction h using Nat.strongRecOn with
  | ind h ih =>
    obtain ⟨d, hd⟩ := exists_get?_of_lt hh
    rw [unfolding_of_get? hr hd, unfolding_of_get? hr' (hx.get?_of_some hd)]
    refine congrArg TypeTree.node (Descriptor.map_congr fun c hc => ?_)
    have hlt := hr.references_lt hd c hc
    exact ih c hlt (Nat.lt_trans hlt hh)

/-- In every registry that constructions lead to, the three stores agree: the index has each descriptor
at its position and nothing else, and beside each stands the depth that its references give. Each type is
held once: the descriptors are distinct, and two handles are the same exactly when they stand for the same
type. No construction changes what is there. One that has succeeded gives the same handle whenever it is
repeated, and then adds nothing. -/
theorem one_handle_per_type (cs : List Construction) :
    let r := ofConstructions cs
    (∀ (h : Handle) (d : Descriptor Handle), r.index[d]? = some h ↔ r.types[h]? = some d) ∧
    r.depths.size = r.types.size ∧
    (∀ (h : Handle) d, r.types[h]? = some d → r.depths[h]? = some (r.depthOf d)) ∧
    (∀ (h h' : Handle) d, r.types[h]? = some d → r.types[h']? = some d → h = h') ∧
    (∀ a b, a < r.size → b < r.size → (a = b ↔ r.unfolding a = r.unfolding b)) ∧
    (∀ c : Construction, r.Extends (c.after r)) ∧
    (∀ (c : Construction) (h : Handle) (r' : Registry), c.perform.run r = (.ok h, r') →
      ∀ later : List Construction,
        c.perform.run (r'.afterAll later) = (.ok h, r'.afterAll later)) := by
  intro r
  have hr : r.WellFormed := Reachable.wellFormed ⟨cs, rfl⟩
  refine ⟨fun _ _ => hr.handle?_eq_some_iff, hr.depths_size, fun _ _ => hr.depth,
    fun _ _ _ => hr.unique, fun a b ha _ => (unfolding_inj hr ha).symm,
    fun c => c.extends_after hr, fun c h r' hc later => ?_⟩
  have hr' : r'.WellFormed := c.wellFormed_of_run hr hc
  obtain ⟨hx, hlater⟩ := afterAll_grows hr' later
  exact c.perform_grows.repeated hr hc hx hlater

/-- A type nested in a bound one comes with an unbound one; asked for again later, it is found. -/
theorem one_handle_per_type_nested :
    let r := ofConstructions
      [.builtin .int32, .generic "Lib" "Box" 1 false, .instantiate 1 [0]]
    let c : Construction := .nested 2 "Item" 0 true
    (c.perform.run r).1 = .ok 4 ∧ (c.after r).depths = #[0, 0, 1, 1, 2] ∧
      c.perform.run ((c.after r).afterAll [.array 4]) = (.ok 4, (c.after r).afterAll [.array 4]) := by
  intro r c
  have hok : (c.perform.run r).1 = .ok 4 := by decide +kernel
  have hrun : c.perform.run r = (.ok 4, c.after r) := Prod.ext hok rfl
  obtain ⟨-, -, -, -, -, -, hagain⟩ := one_handle_per_type
    [.builtin .int32, .generic "Lib" "Box" 1 false, .instantiate 1 [0]]
  exact ⟨hok, by decide +kernel, hagain c 4 (c.after r) hrun [.array 4]⟩

end Registry
end TypeBridge
