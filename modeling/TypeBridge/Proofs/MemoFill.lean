import TypeBridge.Proofs.Dependency

/-!
# What mapping does to a memo

`spellingOver memo h` is the spelling of a type when the entries of a memo are taken at their word,
whatever they hold; over the empty memo it is `spelling`. `Fills memo hs memo'` says all there is to
say about a memo after the types `hs` were asked for: the missed types are in it now, with these
spellings, and nothing else has changed. Types are missed when they are reached from `hs` by way of
types that the memo does not hold.

`Computes x hs f` is the one statement about a computation over a memo: from every memo it answers
`f` of these spellings and fills the memo for `hs`. It holds of `remember`, passes through
sequencing, and gives both the answer and the footprint of every call.
-/

namespace TypeBridge

namespace Memo

/-- The memo lacks the type, and it is needed for one of `hs` by way of types that it lacks too. -/
inductive Missed (needs : Handle → Handle → Prop) (memo : Memo) (hs : List Handle) : Handle → Prop
  | start {h} : h ∈ hs → h ∉ memo → Missed needs memo hs h
  | step {u d} : Missed needs memo hs u → needs u d → d ∉ memo → Missed needs memo hs d

variable {memo memo' : Memo} {h x : Handle} {s : Spelling} {hs hs' : List Handle}
  {needs : Handle → Handle → Prop}

namespace Missed

theorem not_mem (h : Missed needs memo hs x) : x ∉ memo := by
  cases h <;> assumption

theorem mono (h : Missed needs memo hs x) (hsub : hs ⊆ hs') : Missed needs memo hs' x := by
  induction h with
  | start hh hn => exact .start (hsub hh) hn
  | step _ hd hn ih => exact .step ih hd hn

theorem nil : ¬ Missed needs memo [] x := by
  intro h
  induction h with
  | start hh => cases hh
  | step _ _ _ ih => exact ih

theorem append_iff :
    Missed needs memo (hs ++ hs') x ↔ Missed needs memo hs x ∨ Missed needs memo hs' x := by
  constructor
  · intro h
    induction h with
    | start hh hn => exact (List.mem_append.1 hh).imp (.start · hn) (.start · hn)
    | step _ hd hn ih => exact ih.imp (.step · hd hn) (.step · hd hn)
  · rintro (h | h)
    · exact h.mono (List.subset_append_left ..)
    · exact h.mono (List.subset_append_right ..)

theorem singleton_of_mem (hm : h ∈ memo) : ¬ Missed needs memo [h] x := by
  intro hx
  induction hx with
  | start hh hn => exact hn (List.mem_singleton.1 hh ▸ hm)
  | step _ _ _ ih => exact ih

theorem reflTransGen (hx : Missed needs memo [h] x) : Relation.ReflTransGen needs h x := by
  induction hx with
  | start hh _ => exact List.mem_singleton.1 hh ▸ .refl
  | step _ hd _ ih => exact ih.tail hd

theorem singleton_iff (hm : h ∉ memo) (hn : ∀ d, needs h d ↔ d ∈ hs) :
    Missed needs memo [h] x ↔ x = h ∨ Missed needs memo hs x := by
  constructor
  · intro hx
    induction hx with
    | start hh => exact .inl (List.mem_singleton.1 hh)
    | step _ hd hd' ih =>
      rcases ih with rfl | ih
      · exact .inr (.start ((hn _).1 hd) hd')
      · exact .inr (.step ih hd hd')
  · rintro (rfl | hx)
    · exact .start (List.mem_singleton_self _) hm
    · induction hx with
      | start hh hd => exact .step (.start (List.mem_singleton_self _) hm) ((hn _).2 hh) hd
      | step _ hd hd' ih => exact .step ih hd hd'

/-- Filling a memo in two goes: what the second one misses in between is what both together miss
from the start, less what the first has filled in. -/
theorem append_iff_of_filled
    (hmem : ∀ x, x ∈ memo' ↔ x ∈ memo ∨ Missed needs memo hs x) :
    x ∈ memo' ∨ Missed needs memo' hs' x ↔ x ∈ memo ∨ Missed needs memo (hs ++ hs') x := by
  have hsub : ∀ {d}, d ∉ memo' → d ∉ memo := fun hd hd' => hd ((hmem _).2 (.inl hd'))
  rw [append_iff]
  constructor
  · rintro (hx | hx)
    · exact ((hmem x).1 hx).imp_right .inl
    · refine .inr (.inr ?_)
      induction hx with
      | start hh hd => exact .start hh (hsub hd)
      | step _ hd hd' ih => exact .step ih hd (hsub hd')
  · rintro (hx | hx | hx)
    · exact .inl ((hmem x).2 (.inl hx))
    · exact .inl ((hmem x).2 (.inr hx))
    · -- the first go may have met the chain; from there on it has filled in all of it
      induction hx with
      | @start d hh hd =>
        by_cases hd' : d ∈ memo'
        · exact .inl hd'
        · exact .inr (.start hh hd')
      | @step u d hu hd hdm ih =>
        by_cases hd' : d ∈ memo'
        · exact .inl hd'
        rcases ih with hu' | hu'
        · rcases (hmem u).1 hu' with hu'' | hu''
          · exact absurd hu'' hu.not_mem
          · exact .inl ((hmem d).2 (.inr (.step hu'' hd hdm)))
        · exact .inr (.step hu' hd hd')

end Missed
end Memo

namespace Mapper

variable {m : Mapper} {memo memo₁ memo₂ : Memo} {h : Handle} {s : Spelling} {hs hs' : List Handle}

/-- The spelling of a type by the rules, except where the memo holds one. -/
def spellingOver (m : Mapper) (memo : Memo) (h : Handle) : Spelling :=
  match memo[h]? with
  | some s => s
  | none =>
    ((m.outline h).map fun c =>
      if _hc : c < h then (m.spellingOver memo c).textOr m.fallback else m.fallback).spelling m.fallback
termination_by h

theorem spellingOver_of_some (hs : memo[h]? = some s) : m.spellingOver memo h = s := by
  rw [spellingOver, hs]

theorem spellingOver_of_not_mem (hr : m.registry.WellFormed) (hm : h ∉ memo) :
    m.spellingOver memo h = m.spellingFrom (m.spellingOver memo) h := by
  rw [spellingOver, Std.ExtTreeMap.getElem?_eq_none hm]
  exact spellingFrom_eq hr

theorem spellingOver_eq_spelling (hr : m.registry.WellFormed)
    (hmemo : ∀ h s, memo[h]? = some s → s = m.spelling h) : m.spellingOver memo = m.spelling := by
  funext h
  induction h using Nat.strongRecOn with
  | ind h ih =>
    cases hs : memo[h]? with
    | some s => rw [spellingOver_of_some hs, hmemo h s hs]
    | none =>
      rw [spellingOver_of_not_mem hr ((getElem?_eq_none_iff memo h).1 hs), spelling_eq hr]
      exact spellingFrom_congr hr ih

theorem spellingOver_empty (hr : m.registry.WellFormed) : m.spellingOver .empty = m.spelling :=
  spellingOver_eq_spelling hr fun _ _ hs => by simp [Memo.empty] at hs

theorem lt_size_of_missed (hr : m.registry.WellFormed) (hhs : ∀ h ∈ hs, h < m.registry.size)
    (hx : Memo.Missed m.DependsOn memo hs h) : h < m.registry.size := by
  induction hx with
  | start hh _ => exact hhs _ hh
  | step _ hd _ ih => exact Nat.lt_trans (hd.lt hr) ih

/-- The second memo is the first with the spellings of all types filled in that it misses for `hs`. -/
structure Fills (m : Mapper) (memo : Memo) (hs : List Handle) (memo' : Memo) : Prop where
  mem_iff : ∀ x, x ∈ memo' ↔ x ∈ memo ∨ Memo.Missed m.DependsOn memo hs x
  agrees : ∀ x s, memo'[x]? = some s → s = m.spellingOver memo x

namespace Fills

theorem refl (m : Mapper) (memo : Memo) : m.Fills memo [] memo :=
  ⟨fun x => by simp [Memo.Missed.nil], fun _ _ hs => (spellingOver_of_some hs).symm⟩

theorem kept (hf : m.Fills memo hs memo₁) (hx : memo[h]? = some s) : memo₁[h]? = some s := by
  have hmem : h ∈ memo₁ := (hf.mem_iff h).2 (.inl (of_getElem?_eq_some hx))
  have hx₁ := getElem?_pos memo₁ h hmem
  rw [hx₁, hf.agrees h _ hx₁, spellingOver_of_some hx]

theorem spellingOver_eq (hf : m.Fills memo hs memo₁) (hr : m.registry.WellFormed) :
    m.spellingOver memo₁ = m.spellingOver memo := by
  funext h
  induction h using Nat.strongRecOn with
  | ind h ih =>
    cases hs' : memo₁[h]? with
    | some s => rw [spellingOver_of_some hs', hf.agrees h s hs']
    | none =>
      have hm₁ : h ∉ memo₁ := (getElem?_eq_none_iff memo₁ h).1 hs'
      have hm : h ∉ memo := fun hm => hm₁ ((hf.mem_iff h).2 (.inl hm))
      rw [spellingOver_of_not_mem hr hm₁, spellingOver_of_not_mem hr hm]
      exact spellingFrom_congr hr ih

theorem trans (hf : m.Fills memo hs memo₁) (hf' : m.Fills memo₁ hs' memo₂)
    (hr : m.registry.WellFormed) : m.Fills memo (hs ++ hs') memo₂ := by
  refine ⟨fun x => ?_, fun x s hs => ?_⟩
  · rw [hf'.mem_iff x, Memo.Missed.append_iff_of_filled hf.mem_iff]
  · rw [hf'.agrees x s hs, hf.spellingOver_eq hr]

theorem insert (hf : m.Fills memo (m.outline h).holes memo₁) (hm : h ∉ memo) :
    m.Fills memo [h] (memo₁.insert h (m.spellingOver memo h)) := by
  refine ⟨fun x => ?_, fun x s hs => ?_⟩
  · have hmiss := Memo.Missed.singleton_iff (x := x) hm fun d => (mem_holes_iff (m := m)).symm
    rw [Std.ExtTreeMap.mem_insert, hf.mem_iff x, hmiss, Std.LawfulEqOrd.compare_eq_iff_eq]
    tauto
  · rw [Std.ExtTreeMap.getElem?_insert] at hs
    split_ifs at hs with hx
    · rw [← Std.LawfulEqOrd.compare_eq_iff_eq.1 hx, Option.some.inj hs]
    · exact hf.agrees x s hs

theorem of_mem (hm : h ∈ memo) : m.Fills memo [h] memo :=
  ⟨fun _ => by simp [Memo.Missed.singleton_of_mem hm], fun _ _ hs => (spellingOver_of_some hs).symm⟩

theorem unique (h₁ : m.Fills memo hs memo₁) (h₂ : m.Fills memo hs memo₂) : memo₁ = memo₂ := by
  refine Std.ExtTreeMap.ext_getElem? fun x => ?_
  have hmem : x ∈ memo₁ ↔ x ∈ memo₂ := (h₁.mem_iff x).trans (h₂.mem_iff x).symm
  by_cases hx₁ : x ∈ memo₁
  · have hs₁ := getElem?_pos memo₁ x hx₁
    have hs₂ := getElem?_pos memo₂ x (hmem.1 hx₁)
    rw [hs₁, hs₂, h₁.agrees x _ hs₁, h₂.agrees x _ hs₂]
  · have hx₂ : x ∉ memo₂ := fun hx₂ => hx₁ (hmem.2 hx₂)
    rw [Std.ExtTreeMap.getElem?_eq_none hx₁, Std.ExtTreeMap.getElem?_eq_none hx₂]

end Fills

/-- From every memo the computation answers what follows from the spellings over it, and fills the
memo for the given types. -/
structure Computes (m : Mapper) {α : Type} (x : StateM Memo α) (hs : List Handle)
    (f : (Handle → Spelling) → α) : Prop where
  answer : ∀ memo, (x.run memo).1 = f (m.spellingOver memo)
  fills : ∀ memo, m.Fills memo hs (x.run memo).2

namespace Computes

variable {α β : Type} {x : StateM Memo α} {f : (Handle → Spelling) → α}

theorem pure (a : α) : m.Computes (Pure.pure a) [] fun _ => a :=
  ⟨fun _ => rfl, fun memo => .refl m memo⟩

theorem map (hx : m.Computes x hs f) (k : α → β) : m.Computes (k <$> x) hs fun s => k (f s) :=
  ⟨fun memo => congrArg k (hx.answer memo), fun memo => hx.fills memo⟩

theorem bind {k : α → StateM Memo β} {g : α → (Handle → Spelling) → β} (hr : m.registry.WellFormed)
    (hx : m.Computes x hs f) (hk : ∀ a, m.Computes (k a) hs' (g a)) :
    m.Computes (x >>= k) (hs ++ hs') fun s => g (f s) s := by
  refine ⟨fun memo => ?_, fun memo => ?_⟩
  · show ((k (x.run memo).1).run (x.run memo).2).1 = _
    rw [(hk _).answer, hx.answer, (hx.fills memo).spellingOver_eq hr]
  · exact (hx.fills memo).trans ((hk _).fills _) hr

theorem mapM {k : β → StateM Memo α} {needed : β → List Handle} {g : β → (Handle → Spelling) → α}
    {bs : List β} (hr : m.registry.WellFormed)
    (hk : ∀ b ∈ bs, m.Computes (k b) (needed b) (g b)) :
    m.Computes (bs.mapM k) (bs.flatMap needed) fun s => bs.map (g · s) := by
  induction bs with
  | nil => exact pure []
  | cons b bs ih =>
    rw [List.mapM_cons, List.flatMap_cons]
    have htail := ih fun c hc => hk c (List.mem_cons_of_mem b hc)
    exact bind hr (hk b List.mem_cons_self) fun a => htail.map (a :: ·)

theorem fill {k : Handle → StateM Memo β} {g : Handle → (Handle → Spelling) → β}
    {o : Outline Handle} (hr : m.registry.WellFormed)
    (hk : ∀ c ∈ o.holes, m.Computes (k c) [c] (g c)) :
    m.Computes (o.fill k) o.holes fun s => o.map (g · s) := by
  have hmany : ∀ cs ⊆ o.holes, m.Computes (cs.mapM k) cs fun s => cs.map (g · s) := by
    intro cs hcs
    have hall := mapM hr fun c hc => hk c (hcs hc)
    rwa [List.flatMap_singleton'] at hall
  cases o with
  | fixed s => exact pure (Outline.fixed s)
  | array element => exact (hk element (List.mem_singleton_self _)).map Outline.array
  | nullable inner => exact (hk inner (List.mem_singleton_self _)).map Outline.nullable
  | function params result =>
    have hresult := hk result (by simp [Outline.holes])
    exact bind hr (hmany params (List.subset_append_left ..)) fun ps =>
      hresult.map (Outline.function ps)
  | applied head arguments =>
    have harguments := hmany arguments (List.subset_cons_self ..)
    exact bind hr (hk head List.mem_cons_self) fun a => harguments.map (Outline.applied a)
  | replaced rule name namespaceName arguments =>
    exact (hmany arguments (List.Subset.refl _)).map (Outline.replaced rule name namespaceName)

theorem remember {compute : StateM Memo Spelling} (hr : m.registry.WellFormed)
    (hc : m.Computes compute (m.outline h).holes fun s => m.spellingFrom s h) :
    m.Computes (Memo.remember h compute) [h] fun s => s h := by
  have hstep : ∀ memo, ((Memo.remember h compute).run memo).1 = m.spellingOver memo h ∧
      m.Fills memo [h] ((Memo.remember h compute).run memo).2 := by
    intro memo
    cases hs : memo[h]? with
    | some s =>
      rw [Memo.run_remember_of_some hs]
      exact ⟨(spellingOver_of_some hs).symm, .of_mem (of_getElem?_eq_some hs)⟩
    | none =>
      have hm : h ∉ memo := (getElem?_eq_none_iff memo h).1 hs
      have hfound : (compute.run memo).1 = m.spellingOver memo h := by
        rw [hc.answer memo, spellingOver_of_not_mem hr hm]
      rw [Memo.run_remember_of_none hs]
      refine ⟨hfound, ?_⟩
      show m.Fills memo [h] ((compute.run memo).2.insert h (compute.run memo).1)
      rw [hfound]
      exact (hc.fills memo).insert hm
  exact ⟨fun memo => (hstep memo).1, fun memo => (hstep memo).2⟩

end Computes

theorem computes_remember (hr : m.registry.WellFormed) (h : Handle) :
    m.Computes (m.remember h) [h] fun s => s h := by
  induction h using Nat.strongRecOn with
  | ind h ih =>
    rw [Mapper.remember]
    refine Computes.remember hr (Computes.map (Computes.fill hr fun c hc => ?_) _)
    have hlt := hole_lt hr hc
    rw [dif_pos hlt]
    exact (ih c hlt).map (·.textOr m.fallback)

end Mapper
end TypeBridge
