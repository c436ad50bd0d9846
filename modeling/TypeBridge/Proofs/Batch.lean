import TypeBridge.Proofs.Calls

/-!
# Batches of types

Mapping many types over one memo gives each the answer that it gets alone from the memo of the start
(`mapAll_answers`), and what the memo holds afterwards depends only on which types were asked for
(`mapAll_memo_of_mem_iff`). So the order of a batch does not show (`mapAll_order_irrelevant`).
-/

namespace TypeBridge.Mapper

variable {m : Mapper} {memo memo' : Memo} {hs hs' : List Handle}

theorem Fills.of_mem_iff (hf : m.Fills memo hs memo') (hmem : ∀ h, h ∈ hs ↔ h ∈ hs') :
    m.Fills memo hs' memo' := by
  refine ⟨fun x => ?_, hf.agrees⟩
  have hmiss : Memo.Missed m.DependsOn memo hs x ↔ Memo.Missed m.DependsOn memo hs' x :=
    ⟨fun hx => hx.mono fun h => (hmem h).1, fun hx => hx.mono fun h => (hmem h).2⟩
  rw [hf.mem_iff x, hmiss]

theorem mapAll_answers (hr : m.registry.WellFormed) (hs : List Handle) (memo : Memo) :
    ((m.mapAll hs).run memo).1 = hs.map fun h => ((m.map h).run.run memo).1 := by
  rw [(computes_mapAll hr hs).answer memo]
  refine List.map_congr_left fun h _ => ?_
  rw [(computes_map hr h).answer memo]

theorem mapAll_memo_of_mem_iff (hr : m.registry.WellFormed) (hmem : ∀ h, h ∈ hs ↔ h ∈ hs')
    (memo : Memo) : ((m.mapAll hs).run memo).2 = ((m.mapAll hs').run memo).2 := by
  have hadmitted : ∀ h, h ∈ hs.flatMap m.admitted ↔ h ∈ hs'.flatMap m.admitted := by
    intro h
    simp only [List.mem_flatMap, hmem]
  have hf := ((computes_mapAll hr hs).fills memo).of_mem_iff hadmitted
  exact hf.unique ((computes_mapAll hr hs').fills memo)

/-- Over every memo, whatever it holds, a batch answers position by position what each of its types
is answered alone; and in every other order of the batch, each type gets that same answer and the
memo ends up the same. -/
theorem mapAll_order_irrelevant (hr : m.registry.Reachable) (memo : Memo) (hs : List Handle) :
    let alone (h : Handle) := ((m.map h).run.run memo).1
    ((m.mapAll hs).run memo).1 = hs.map alone ∧
    ∀ hs' : List Handle, hs'.Perm hs →
      ((m.mapAll hs').run memo).1 = hs'.map alone ∧
      ((m.mapAll hs').run memo).2 = ((m.mapAll hs).run memo).2 := by
  intro alone
  have hwf := hr.wellFormed
  refine ⟨mapAll_answers hwf hs memo, fun hs' hp => ⟨mapAll_answers hwf hs' memo, ?_⟩⟩
  exact mapAll_memo_of_mem_iff hwf (fun _ => hp.mem_iff) memo

/-- Two arrays that share their elements, one of them named twice, and a third that nests too deeply,
over a memo that holds something else for the innermost array. -/
theorem mapAll_order_irrelevant_shared_elements :
    let m : Mapper :=
      { registry := .ofConstructions [.builtin .int32, .array 0, .array 1, .array 2], maxDepth := 2 }
    let memo : Memo := Memo.empty.insert 1 (.written "Foreign")
    [2, 0, 3, 2].Perm [3, 2, 2, 0] ∧
    ((m.mapAll [2, 0, 3, 2]).run memo).1 =
      [.ok (.written "Array<Foreign>"), .ok (.written "Int"), .error (.depthExceeded 2 3),
        .ok (.written "Array<Foreign>")] ∧
    ((m.mapAll [2, 0, 3, 2]).run memo).2 = ((m.mapAll [3, 2, 2, 0]).run memo).2 := by
  intro m memo
  have hp : [2, 0, 3, 2].Perm [3, 2, 2, 0] := by decide
  obtain ⟨-, hother⟩ := mapAll_order_irrelevant (m := m) ⟨_, rfl⟩ memo [3, 2, 2, 0]
  obtain ⟨hanswers, hmemo⟩ := hother _ hp
  refine ⟨hp, hanswers.trans ?_, hmemo⟩
  decide +kernel

end TypeBridge.Mapper
