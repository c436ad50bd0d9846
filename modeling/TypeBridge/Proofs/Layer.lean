import Mathlib.Data.List.Basic
import Mathlib.Tactic.Common
import TypeBridge.Mapping.Outline
import TypeBridge.Source.Descriptor

/-!
# One layer of a type

`map` puts the readings of references into a layer. Two layers that look the same through one pair
of readings look the same through another, as soon as references with the same first readings have
the same second ones (`map_eq_map`). It is the one fact about descriptors and outlines by which a
recursion over two registries goes through; what a form gives is also what it gives after `map`.
-/

namespace TypeBridge

variable {ρ ρ₁ ρ₂ σ τ : Type} {f₁ : ρ₁ → σ} {f₂ : ρ₂ → σ} {g₁ : ρ₁ → τ} {g₂ : ρ₂ → τ}

theorem option_cases {o₁ : Option ρ₁} {o₂ : Option ρ₂} (h : o₁.map f₁ = o₂.map f₂) :
    (o₁ = none ∧ o₂ = none) ∨ ∃ x y, o₁ = some x ∧ o₂ = some y ∧ f₁ x = f₂ y := by
  cases o₁ with
  | none => exact .inl ⟨rfl, Option.map_eq_none_iff.1 h.symm⟩
  | some x =>
    obtain ⟨y, hy, hxy⟩ := Option.map_eq_some_iff.1 h.symm
    exact .inr ⟨x, y, rfl, hy, hxy.symm⟩

theorem mapM_congr {m : Type → Type} [Monad m] [LawfulMonad m] {f g : ρ → m σ} {cs : List ρ}
    (h : ∀ c ∈ cs, f c = g c) : cs.mapM f = cs.mapM g := by
  induction cs with
  | nil => rfl
  | cons c cs ih =>
    rw [List.mapM_cons, List.mapM_cons, h c List.mem_cons_self,
      ih fun d hd => h d (List.mem_cons_of_mem c hd)]

/-- References among `l₁` and `l₂` that `f₁` and `f₂` do not tell apart are not told apart by `g₁`
and `g₂`. -/
def Refines (f₁ : ρ₁ → σ) (f₂ : ρ₂ → σ) (g₁ : ρ₁ → τ) (g₂ : ρ₂ → τ) (l₁ : List ρ₁)
    (l₂ : List ρ₂) : Prop :=
  ∀ x ∈ l₁, ∀ y ∈ l₂, f₁ x = f₂ y → g₁ x = g₂ y

namespace Refines
variable {l₁ l₁' : List ρ₁} {l₂ l₂' : List ρ₂}

theorem mono (h : Refines f₁ f₂ g₁ g₂ l₁' l₂') (h₁ : l₁ ⊆ l₁') (h₂ : l₂ ⊆ l₂') :
    Refines f₁ f₂ g₁ g₂ l₁ l₂ :=
  fun x hx y hy => h x (h₁ hx) y (h₂ hy)

theorem list_map (hg : Refines f₁ f₂ g₁ g₂ l₁ l₂) (h : l₁.map f₁ = l₂.map f₂) :
    l₁.map g₁ = l₂.map g₂ := by
  induction l₁ generalizing l₂ with
  | nil =>
    rw [List.map_nil] at h
    rw [List.map_eq_nil_iff.1 h.symm, List.map_nil, List.map_nil]
  | cons x l₁ ih =>
    cases l₂ with
    | nil => cases h
    | cons y l₂ =>
      obtain ⟨hxy, hl⟩ := List.cons_eq_cons.1 h
      rw [List.map_cons, List.map_cons, hg x (by simp) y (by simp) hxy,
        ih (hg.mono (by simp) (by simp)) hl]

theorem option_map {o₁ : Option ρ₁} {o₂ : Option ρ₂}
    (hg : Refines f₁ f₂ g₁ g₂ o₁.toList o₂.toList) (h : o₁.map f₁ = o₂.map f₂) :
    o₁.map g₁ = o₂.map g₂ := by
  rcases option_cases h with ⟨rfl, rfl⟩ | ⟨x, y, rfl, rfl, hxy⟩
  · rfl
  · exact congrArg some (hg x (by simp) y (by simp) hxy)

theorem members_map {ms₁ : List (String × ρ₁)} {ms₂ : List (String × ρ₂)}
    (hg : Refines f₁ f₂ g₁ g₂ (ms₁.map (·.2)) (ms₂.map (·.2)))
    (h : (ms₁.map fun m => (m.1, f₁ m.2)) = ms₂.map fun m => (m.1, f₂ m.2)) :
    (ms₁.map fun m => (m.1, g₁ m.2)) = ms₂.map fun m => (m.1, g₂ m.2) := by
  refine list_map (fun m₁ hm₁ m₂ hm₂ hm => ?_) h
  obtain ⟨hname, hf⟩ := Prod.mk.inj hm
  rw [hname, hg m₁.2 (List.mem_map_of_mem hm₁) m₂.2 (List.mem_map_of_mem hm₂) hf]

end Refines

namespace Declared

theorem map_eq_map {d₁ : Declared ρ₁} {d₂ : Declared ρ₂} (h : d₁.map f₁ = d₂.map f₂)
    (hg : Refines f₁ f₂ g₁ g₂ d₁.references d₂.references) : d₁.map g₁ = d₂.map g₂ := by
  simp only [map, mk.injEq] at h ⊢
  obtain ⟨hns, hname, houter, harity, harguments, hdefinition⟩ := h
  refine ⟨hns, hname, (hg.mono ?_ ?_).option_map houter, harity,
    (hg.mono ?_ ?_).list_map harguments, (hg.mono ?_ ?_).option_map hdefinition⟩ <;>
  · intro c hc
    simp only [references, List.mem_append]
    tauto

theorem map_id (d : Declared ρ) : d.map id = d := by
  simp [map]

end Declared

namespace Form

theorem map_eq_map {form₁ : Form ρ₁} {form₂ : Form ρ₂} (h : form₁.map f₁ = form₂.map f₂)
    (hg : Refines f₁ f₂ g₁ g₂ form₁.references form₂.references) :
    form₁.map g₁ = form₂.map g₂ := by
  cases form₁ <;> cases form₂ <;> simp only [map, reduceCtorEq] at h ⊢
  case builtin.builtin => simpa using h
  case parameter.parameter => simpa using h
  case named.named => exact congrArg named (Declared.map_eq_map (named.inj h) hg)
  case enumeration.enumeration =>
    exact congrArg enumeration (Declared.map_eq_map (enumeration.inj h) hg)
  case array.array =>
    exact congrArg array (hg _ (List.mem_singleton_self _) _ (List.mem_singleton_self _)
      (array.inj h))
  case nullable.nullable =>
    exact congrArg nullable (hg _ (List.mem_singleton_self _) _ (List.mem_singleton_self _)
      (nullable.inj h))
  case record.record => exact congrArg record (Refines.members_map hg (record.inj h))
  case delegate.delegate d₁ ps₁ r₁ d₂ ps₂ r₂ =>
    obtain ⟨hd, hps, hr⟩ := delegate.inj h
    simp only [references] at hg
    have hg' : Refines f₁ f₂ g₁ g₂ ps₁ ps₂ := hg.mono (by simp) (by simp)
    rw [Declared.map_eq_map hd (hg.mono (by simp) (by simp)), hg'.list_map hps,
      hg r₁ (by simp) r₂ (by simp) hr]

theorem map_id (form : Form ρ) : form.map id = form := by
  cases form <;> simp [map, Declared.map_id]

end Form

namespace Descriptor

theorem map_eq_map {d₁ : Descriptor ρ₁} {d₂ : Descriptor ρ₂} (h : d₁.map f₁ = d₂.map f₂)
    (hg : Refines f₁ f₂ g₁ g₂ d₁.references d₂.references) : d₁.map g₁ = d₂.map g₂ := by
  simp only [map, mk.injEq] at h ⊢
  exact ⟨Form.map_eq_map h.1 hg, h.2⟩

theorem map_id (d : Descriptor ρ) : d.map id = d := by
  simp [map, Form.map_id]

theorem map_congr {f g : ρ → σ} {d : Descriptor ρ} (h : ∀ c ∈ d.references, f c = g c) :
    d.map f = d.map g :=
  map_eq_map (show d.map id = d.map id from rfl) fun c hc _ _ hcc' =>
    (h c hc).trans (congrArg g hcc')

end Descriptor

namespace Outline

theorem map_eq_map {o₁ : Outline ρ₁} {o₂ : Outline ρ₂} (h : o₁.map f₁ = o₂.map f₂)
    (hg : Refines f₁ f₂ g₁ g₂ o₁.holes o₂.holes) : o₁.map g₁ = o₂.map g₂ := by
  cases o₁ <;> cases o₂ <;> simp only [map, reduceCtorEq] at h ⊢
  case fixed.fixed => simpa using h
  case array.array =>
    exact congrArg array (hg _ (List.mem_singleton_self _) _ (List.mem_singleton_self _)
      (array.inj h))
  case nullable.nullable =>
    exact congrArg nullable (hg _ (List.mem_singleton_self _) _ (List.mem_singleton_self _)
      (nullable.inj h))
  case function.function ps₁ r₁ ps₂ r₂ =>
    obtain ⟨hps, hr⟩ := function.inj h
    simp only [holes] at hg
    have hg' : Refines f₁ f₂ g₁ g₂ ps₁ ps₂ := hg.mono (by simp) (by simp)
    rw [hg'.list_map hps, hg r₁ (by simp) r₂ (by simp) hr]
  case applied.applied u₁ args₁ u₂ args₂ =>
    obtain ⟨hu, hargs⟩ := applied.inj h
    simp only [holes] at hg
    have hg' : Refines f₁ f₂ g₁ g₂ args₁ args₂ := hg.mono (by simp) (by simp)
    rw [hg'.list_map hargs, hg u₁ (by simp) u₂ (by simp) hu]
  case replaced.replaced rule₁ name₁ ns₁ args₁ rule₂ name₂ ns₂ args₂ =>
    obtain ⟨hrule, hname, hns, hargs⟩ := replaced.inj h
    have hg' : Refines f₁ f₂ g₁ g₂ args₁ args₂ := hg
    rw [hrule, hname, hns, hg'.list_map hargs]

theorem map_congr {f g : ρ → σ} {o : Outline ρ} (h : ∀ c ∈ o.holes, f c = g c) :
    o.map f = o.map g :=
  map_eq_map (show o.map id = o.map id from rfl) fun c hc _ _ hcc' =>
    (h c hc).trans (congrArg g hcc')

theorem fill_congr {m : Type → Type} [Monad m] [LawfulMonad m] {f g : ρ → m σ} {o : Outline ρ}
    (h : ∀ c ∈ o.holes, f c = g c) : o.fill f = o.fill g := by
  have hmany : ∀ cs ⊆ o.holes, cs.mapM f = cs.mapM g := fun cs hcs =>
    mapM_congr fun c hc => h c (hcs hc)
  cases o with
  | fixed s => rfl
  | array element => rw [fill, fill, h element (List.mem_singleton_self _)]
  | nullable inner => rw [fill, fill, h inner (List.mem_singleton_self _)]
  | function params result =>
    rw [fill, fill, hmany params (List.subset_append_left ..), h result (by simp [holes])]
  | applied head arguments =>
    rw [fill, fill, h head List.mem_cons_self, hmany arguments (List.subset_cons_self ..)]
  | replaced rule name namespaceName arguments =>
    rw [fill, fill, hmany arguments (List.Subset.refl _)]

end Outline

section Translation

variable {m n : Type → Type} [Monad m] [LawfulMonad m] [Monad n] [LawfulMonad n]
  {F : (α : Type) → m α → n α}

/-- Computations are translated with their answers and in their order. -/
structure Translates (F : (α : Type) → m α → n α) : Prop where
  pure : ∀ {α : Type} (a : α), F α (pure a) = pure a
  bind : ∀ {α β : Type} (x : m α) (k : α → m β), F β (x >>= k) = F α x >>= fun a => F β (k a)

theorem Translates.mapM (hF : Translates F) (f : ρ → m σ) (cs : List ρ) :
    F _ (cs.mapM f) = cs.mapM fun c => F _ (f c) := by
  induction cs with
  | nil => exact hF.pure []
  | cons c cs ih => simp only [List.mapM_cons, hF.bind, hF.pure, ih]

theorem Translates.fill (hF : Translates F) (f : ρ → m σ) (o : Outline ρ) :
    F _ (o.fill f) = o.fill fun c => F _ (f c) := by
  cases o <;> simp only [Outline.fill, hF.bind, hF.pure, hF.mapM]

end Translation
end TypeBridge
