import TypeBridge.Proofs.Depth
import TypeBridge.Proofs.OverrideReach

/-!
# The limit on nesting

`Mapper.map` compares the depth of a type with the limit once, before anything else, and goes on to
`Mapper.remember`, which does not look at the limit. `Mapper.checked` compares for every type on the way.
They are the same (`checked_eq_map`), since a type is spelled with types of smaller depth
(`DependsOn.admits`), also where these are found by way of a definition or of the arguments of the type
around. So what is behind the limit is not reached, and the limit does not matter to a type that it admits.
-/

namespace TypeBridge

/-- `Memo.remember` for an answer that may be refused. What was found before a refusal stays. -/
def Memo.rememberAnswer (h : Handle) (compute : Mapping Spelling) : Mapping Spelling := do
  match (← getThe Memo)[h]? with
  | some s => return s
  | none =>
    let s ← compute
    modifyThe Memo (·.insert h s)
    return s

theorem Memo.rememberAnswer_lift (h : Handle) (compute : StateM Memo Spelling) :
    rememberAnswer h (ExceptT.lift compute) = ExceptT.lift (remember h compute) := by
  refine ExceptT.ext (StateT.ext fun memo => ?_)
  show ((match memo[h]? with
    | some s => pure s
    | none => do
      let s ← ExceptT.lift compute
      modifyThe Memo (·.insert h s)
      return s : Mapping Spelling).run.run memo) = (Except.ok <$> remember h compute).run memo
  rw [StateT.run_map]
  cases hs : memo[h]? with
  | some s =>
    rw [run_remember_of_some hs]
    rfl
  | none =>
    rw [run_remember_of_none hs]
    rfl

namespace Mapper

variable {m : Mapper} {h x : Handle} {depth limit : Nat} {memo : Memo}

def limited (m : Mapper) (limit : Nat) : Mapper :=
  { m with maxDepth := limit }

/-- The spelling of a type, where no type that is met on the way may nest too deeply. -/
def checked (m : Mapper) (h : Handle) : Mapping Spelling := do
  match m.registry.depth? h with
  | none => throw (.unknown ⟨m.registry.size, h⟩)
  | some depth =>
    if m.maxDepth < depth then throw (.depthExceeded m.maxDepth h)
    else Memo.rememberAnswer h do
      let filled ← (m.outline h).fill fun c =>
        if _hc : c < h then (·.textOr m.fallback) <$> m.checked c else pure m.fallback
      return filled.spelling m.fallback
termination_by h

theorem map_of_admits (ha : m.Admits h) : m.map h = ExceptT.lift (m.remember h) := by
  obtain ⟨depth, hd, hle⟩ := ha
  rw [map, hd]
  exact if_neg (Nat.not_lt.2 hle)

theorem map_of_lt (hd : m.registry.depth? h = some depth) (hlt : m.maxDepth < depth) :
    m.map h = throw (.depthExceeded m.maxDepth h) := by
  rw [map, hd]
  exact if_pos hlt

theorem translates_lift :
    Translates fun α (x : StateM Memo α) => (ExceptT.lift x : Mapping α) :=
  ⟨fun _ => rfl, fun _ _ => ExceptT.ext (by simp)⟩

/-- Whether the limit is looked at once or for every type on the way makes no difference. -/
theorem checked_eq_map (hr : m.registry.WellFormed) (h : Handle) : m.checked h = m.map h := by
  induction h using Nat.strongRecOn with
  | ind h ih =>
    rw [checked]
    cases hd : m.registry.depth? h with
    | none => rw [map, hd]
    | some depth =>
      by_cases hlt : m.maxDepth < depth
      · rw [map_of_lt hd hlt]
        exact if_pos hlt
      · have ha : m.Admits h := ⟨depth, hd, Nat.le_of_not_lt hlt⟩
        -- the types in the holes are admitted too, so their calls are lifted as well
        have hholes : ∀ c ∈ (m.outline h).holes,
            (if _hc : c < h then (·.textOr m.fallback) <$> m.checked c else pure m.fallback) =
              ExceptT.lift (if _hc : c < h then (·.textOr m.fallback) <$> m.remember c
                else pure m.fallback) := by
          intro c hc
          have hlt := hole_lt hr hc
          rw [dif_pos hlt, dif_pos hlt, ih c hlt, map_of_admits ((mem_holes_iff.1 hc).admits hr ha)]
          rfl
        rw [map_of_admits ha, remember, ← Memo.rememberAnswer_lift, translates_lift.bind,
          translates_lift.fill, ← Outline.fill_congr hholes]
        exact if_neg hlt

theorem map_limited (hr : m.registry.WellFormed) (ha : m.Admits h) (hb : (m.limited limit).Admits h) :
    (m.limited limit).map h = m.map h := by
  have hsame : (m.limited limit).remember h = m.remember h := remember_congr hr rfl fun _ _ => rfl
  rw [map_of_admits ha, map_of_admits hb, hsame]

theorem exists_depth?_le_of_missed (hr : m.registry.WellFormed) (hd : m.registry.depth? h = some depth)
    (hx : Memo.Missed m.DependsOn memo [h] x) : ∃ k, m.registry.depth? x = some k ∧ k ≤ depth := by
  induction hx with
  | start hh => exact ⟨depth, List.mem_singleton.1 hh ▸ hd, Nat.le_refl depth⟩
  | step _ hdep _ ih =>
    exact Admits.of_transGen_refers (m := m.limited depth) ih hr hdep.transGen_refers

/-- A call is refused just when the type nests deeper than the limit, whatever the memo holds, and then
leaves the memo as it is. Otherwise there is an answer, with the same memo under every other limit that
admits the type, and what has been filled in nests no deeper than the type. To look at the limit for the
types on the way as well would change nothing. -/
theorem depth_limit_exact (hr : m.registry.Reachable) (hh : h < m.registry.size) :
    ∃ depth, m.registry.depth? h = some depth ∧ m.checked h = m.map h ∧
      ∀ memo : Memo,
        ((∃ e, ((m.map h).run.run memo).1 = .error e) ↔ m.maxDepth < depth) ∧
        (m.maxDepth < depth →
          (m.map h).run.run memo = (.error (.depthExceeded m.maxDepth h), memo)) ∧
        (depth ≤ m.maxDepth →
          ∃ s memo', (m.map h).run.run memo = (.ok s, memo') ∧
            (∀ limit, depth ≤ limit → ((m.limited limit).map h).run.run memo = (.ok s, memo')) ∧
            ∀ x ∈ memo', x ∉ memo → ∃ k, m.registry.depth? x = some k ∧ k ≤ depth) := by
  have hwf := hr.wellFormed
  obtain ⟨depth, hd⟩ := hwf.exists_depth?_of_lt hh
  refine ⟨depth, hd, checked_eq_map hwf h, fun memo => ?_⟩
  have hrefused : m.maxDepth < depth →
      (m.map h).run.run memo = (.error (.depthExceeded m.maxDepth h), memo) := by
    intro hlt
    rw [map_of_lt hd hlt]
    rfl
  have hanswer : depth ≤ m.maxDepth → ((m.map h).run.run memo).1 = .ok (m.spellingOver memo h) := by
    intro hle
    rw [(computes_map hwf h).answer, answer_of_admits _ ⟨depth, hd, hle⟩]
  refine ⟨⟨fun ⟨e, he⟩ => ?_, fun hlt => ⟨_, congrArg Prod.fst (hrefused hlt)⟩⟩, hrefused,
    fun hle => ⟨_, _, Prod.ext (hanswer hle) rfl, fun limit hlimit => ?_, fun x hx hn => ?_⟩⟩
  · by_contra hlt
    rw [hanswer (Nat.le_of_not_lt hlt)] at he
    cases he
  · have hadmits : (m.limited limit).Admits h := ⟨depth, hd, hlimit⟩
    rw [map_limited hwf ⟨depth, hd, hle⟩ hadmits]
    exact Prod.ext (hanswer hle) rfl
  · have hf := (computes_map hwf h).fills memo
    rw [admitted_of_admits ⟨depth, hd, hle⟩] at hf
    exact exists_depth?_le_of_missed hwf hd (((hf.mem_iff x).1 hx).resolve_left hn)

/-- Boxes of integers and arrays of these under a limit that the arrays exceed, over a memo that holds the
arrays. -/
theorem depth_limit_exact_boxes :
    let m : Mapper :=
      { registry := .ofConstructions
          [.builtin .int32, .generic "Lib" "Box" 1 false, .instantiate 1 [0], .array 2], maxDepth := 1 }
    let memo : Memo := Memo.empty.insert 3 (.written "Boxes")
    (m.map 3).run.run memo = (.error (.depthExceeded 1 3), memo) ∧ m.checked 2 = m.map 2 ∧
      ∃ memo', (m.map 2).run.run memo = (.ok (.written "lib.Box<Int>"), memo') ∧
        ((m.limited 256).map 2).run.run memo = (.ok (.written "lib.Box<Int>"), memo') := by
  intro m memo
  have hr : m.registry.Reachable := ⟨_, rfl⟩
  have harrays : m.registry.depth? 3 = some 2 := by decide +kernel
  have hboxes : m.registry.depth? 2 = some 1 := by decide +kernel
  obtain ⟨d, hd, -, hexact⟩ := depth_limit_exact (h := 3) hr (by decide +kernel)
  obtain rfl : 2 = d := Option.some.inj (harrays.symm.trans hd)
  obtain ⟨-, hrefused, -⟩ := hexact memo
  obtain ⟨d, hd, hchecked, hexact⟩ := depth_limit_exact (h := 2) hr (by decide +kernel)
  obtain rfl : 1 = d := Option.some.inj (hboxes.symm.trans hd)
  obtain ⟨s, memo', hrun, hlimits, -⟩ := (hexact memo).2.2 (Nat.le_refl 1)
  have hanswer : ((m.map 2).run.run memo).1 = .ok (.written "lib.Box<Int>") := by decide +kernel
  rw [hrun] at hanswer
  obtain rfl := Except.ok.inj hanswer
  exact ⟨hrefused (Nat.lt_succ_self 1), hchecked, memo', hrun, hlimits 256 (by decide)⟩

end Mapper
end TypeBridge
