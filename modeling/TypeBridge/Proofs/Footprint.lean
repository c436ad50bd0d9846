import TypeBridge.Proofs.Calls

/-!
# The footprint of mapping a type

Whatever a memo holds, right or wrong, mapping a type adds to it the types that are missed for it,
each once, and changes nothing else (`map_footprint`).
-/

namespace TypeBridge.Mapper

variable {m : Mapper}

/-- A call for a type that is not refused keeps every entry of the memo and adds the types that are
reached from it by way of types without an entry. So nothing is added for a type that has one, and
nothing when the call is refused. -/
theorem map_footprint (hr : m.registry.Reachable) (h : Handle) (memo : Memo) :
    let memo' := ((m.map h).run.run memo).2
    (m.Admits h →
      (∀ (x : Handle) s, memo[x]? = some s → memo'[x]? = some s) ∧
      (∀ x, x ∈ memo' ∧ x ∉ memo ↔ Memo.Missed m.DependsOn memo [h] x) ∧
      (h ∈ memo → memo' = memo)) ∧
    (¬ m.Admits h → memo' = memo) := by
  intro memo'
  have hf : m.Fills memo (m.admitted h) memo' := (computes_map hr.wellFormed h).fills memo
  constructor
  · intro ha
    rw [admitted_of_admits ha] at hf
    refine ⟨fun x s hs => hf.kept hs, fun x => ?_, fun hh => hf.unique (.of_mem hh)⟩
    rw [hf.mem_iff x]
    exact ⟨fun ⟨hx, hn⟩ => hx.resolve_left hn, fun hx => ⟨.inr hx, hx.not_mem⟩⟩
  · intro ha
    rw [admitted_of_not_admits ha] at hf
    exact hf.unique (.refl m memo)

/-- Three arrays around an integer, over a memo that holds something else for the innermost: the two
outer ones are added, and the integer is not reached. -/
theorem map_footprint_nested_array :
    let m : Mapper :=
      { registry := .ofConstructions [.builtin .int32, .array 0, .array 1, .array 2] }
    let memo : Memo := Memo.empty.insert 1 (.written "Foreign")
    let memo' : Memo := ((m.map 3).run.run memo).2
    memo'[1]? = some (.written "Foreign") ∧
      ∀ x, x ∈ memo' ∧ x ∉ memo ↔ x = 3 ∨ x = 2 := by
  intro m memo memo'
  have ha : m.Admits 3 := ⟨3, by decide +kernel, by decide⟩
  obtain ⟨hkept, hadded, -⟩ := (map_footprint (m := m) ⟨_, rfl⟩ 3 memo).1 ha
  have h₃ : (m.outline 3).holes = [2] := by decide +kernel
  have h₂ : (m.outline 2).holes = [1] := by decide +kernel
  have hmemo : ∀ x, x ∈ memo ↔ x = 1 := by
    intro x
    rw [Std.ExtTreeMap.mem_insert, Std.LawfulEqOrd.compare_eq_iff_eq]
    exact ⟨fun hx => (hx.resolve_right Std.ExtTreeMap.not_mem_empty).symm, fun hx => .inl hx.symm⟩
  refine ⟨hkept 1 _ Std.ExtTreeMap.getElem?_insert_self, fun x => (hadded x).trans ⟨fun hx => ?_, ?_⟩⟩
  · induction hx with
    | start hh _ => exact .inl (List.mem_singleton.1 hh)
    | step _ hd hn ih =>
      rcases ih with rfl | rfl
      · rw [← mem_holes_iff, h₃] at hd
        exact .inr (List.mem_singleton.1 hd)
      · rw [← mem_holes_iff, h₂] at hd
        exact absurd ((hmemo _).2 (List.mem_singleton.1 hd)) hn
  · have hmiss : Memo.Missed m.DependsOn memo [3] 3 := .start (by decide) (by rw [hmemo]; decide)
    rintro (rfl | rfl)
    · exact hmiss
    · exact .step hmiss (mem_holes_iff.1 (by rw [h₃]; decide)) (by rw [hmemo]; decide)

end TypeBridge.Mapper
