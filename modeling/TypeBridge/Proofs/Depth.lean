import TypeBridge.Proofs.Calls

/-!
# Depth

The depth that a registry holds for a type is greater than those of the types it refers to. All that a
type is spelled with is reached by references, so a call that is not refused would not be refused for
any of these either (`Mapper.DependsOn.admits`).
-/

namespace TypeBridge

namespace Registry

theorem le_foldl_max {α : Type} (f : α → Nat) (xs : List α) (start : Nat) :
    start ≤ xs.foldl (fun depth x => max depth (f x)) start ∧
      ∀ x ∈ xs, f x ≤ xs.foldl (fun depth x => max depth (f x)) start := by
  induction xs generalizing start with
  | nil => exact ⟨Nat.le_refl _, fun x hx => nomatch hx⟩
  | cons x xs ih =>
    obtain ⟨hstart, hxs⟩ := ih (max start (f x))
    refine ⟨Nat.le_trans (Nat.le_max_left ..) hstart, fun y hy => ?_⟩
    rcases List.mem_cons.1 hy with rfl | hy
    · exact Nat.le_trans (Nat.le_max_right ..) hstart
    · exact hxs y hy

variable {r : Registry} {h c : Handle} {n : Nat}

theorem Refers.exists_depth?_lt (hc : r.Refers h c) (hr : r.WellFormed) (hn : r.depth? h = some n) :
    ∃ k, r.depth? c = some k ∧ k < n := by
  obtain ⟨t, ht, hc⟩ := hc
  obtain ⟨k, hk⟩ := hr.exists_depth?_of_lt (hr.references_lt_size ht c hc)
  have hdepth : n = r.depthOf t := Option.some.inj (hn.symm.trans (hr.depth ht))
  have hle := (le_foldl_max (fun c => (r.depth? c).getD 0 + 1) t.references 0).2 c hc
  rw [hk, Option.getD_some] at hle
  exact ⟨k, hk, hdepth ▸ hle⟩

end Registry

namespace Mapper
variable {m : Mapper} {h c u d : Handle}

theorem Admits.of_refers (ha : m.Admits h) (hr : m.registry.WellFormed)
    (hc : m.registry.Refers h c) : m.Admits c := by
  obtain ⟨n, hn, hle⟩ := ha
  obtain ⟨k, hk, hlt⟩ := hc.exists_depth?_lt hr hn
  exact ⟨k, hk, Nat.le_trans (Nat.le_of_lt hlt) hle⟩

theorem Admits.of_transGen_refers (ha : m.Admits h) (hr : m.registry.WellFormed)
    (hc : Relation.TransGen m.registry.Refers h c) : m.Admits c := by
  induction hc with
  | single hc => exact ha.of_refers hr hc
  | tail _ hc ih => exact ih.of_refers hr hc

/-- A call for what a type is spelled with is not refused when the call for the type is not. -/
theorem DependsOn.admits (hd : m.DependsOn u d) (hr : m.registry.WellFormed) (ha : m.Admits u) :
    m.Admits d :=
  ha.of_transGen_refers hr hd.transGen_refers

theorem Admits.of_reflTransGen (ha : m.Admits h) (hr : m.registry.WellFormed)
    (hd : Relation.ReflTransGen m.DependsOn h d) : m.Admits d := by
  induction hd with
  | refl => exact ha
  | tail _ hd ih => exact hd.admits hr ih

end Mapper
end TypeBridge
