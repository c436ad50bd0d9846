import Mathlib.Data.List.Forall2
import TypeBridge.Mapping.Node
import TypeBridge.Proofs.MemoFill

/-!
# What the calls of a mapper do

Each call over a memo `Computes` its answer from the spellings of the types that it lets pass:
`admitted h` is the type itself or, where the call for it is refused, nothing.
-/

namespace TypeBridge

/-- The answer of a computation over a memo that holds nothing yet. -/
def Memo.fresh {α : Type} (x : StateM Memo α) : α :=
  (x.run .empty).1

namespace Mapper

variable {m : Mapper} {h c : Handle} {ν : Type}

def Admits (m : Mapper) (h : Handle) : Prop :=
  ∃ depth, m.registry.depth? h = some depth ∧ depth ≤ m.maxDepth

/-- The types that are spelled in a call for the type. -/
def admitted (m : Mapper) (h : Handle) : List Handle :=
  match m.registry.depth? h with
  | none => []
  | some depth => if m.maxDepth < depth then [] else [h]

def answer (m : Mapper) (spelled : Handle → Spelling) (h : Handle) :
    Except MappingError Spelling :=
  match m.registry.depth? h with
  | none => .error (.unknown ⟨m.registry.size, h⟩)
  | some depth =>
    if m.maxDepth < depth then .error (.depthExceeded m.maxDepth h) else .ok (spelled h)

theorem admitted_of_admits (ha : m.Admits h) : m.admitted h = [h] := by
  obtain ⟨depth, hd, hle⟩ := ha
  simp only [admitted, hd, Nat.not_lt.2 hle, if_false]

theorem admitted_of_not_admits (ha : ¬ m.Admits h) : m.admitted h = [] := by
  unfold admitted
  split
  next => rfl
  next depth hd => exact if_pos (Nat.lt_of_not_le fun hle => ha ⟨depth, hd, hle⟩)

theorem Admits.lt_size (ha : m.Admits h) (hr : m.registry.WellFormed) : h < m.registry.size := by
  obtain ⟨depth, hd, -⟩ := ha
  exact hr.lt_size_of_depth? hd

theorem lt_size_of_mem_admitted (hr : m.registry.WellFormed) (hc : c ∈ m.admitted h) :
    c < m.registry.size := by
  by_cases ha : m.Admits h
  · rw [admitted_of_admits ha] at hc
    exact List.mem_singleton.1 hc ▸ ha.lt_size hr
  · rw [admitted_of_not_admits ha] at hc
    cases hc

theorem answer_of_admits (spelled : Handle → Spelling) (ha : m.Admits h) :
    m.answer spelled h = .ok (spelled h) := by
  obtain ⟨depth, hd, hle⟩ := ha
  simp only [answer, hd, Nat.not_lt.2 hle, if_false]

theorem Computes.fresh {α : Type} {x : StateM Memo α} {hs : List Handle}
    {f : (Handle → Spelling) → α} (hx : m.Computes x hs f) (hr : m.registry.WellFormed) :
    Memo.fresh x = f m.spelling := by
  rw [Memo.fresh, hx.answer, spellingOver_empty hr]

theorem run_bind_of_pure {α β : Type} {x : Mapping α} {k : α → Mapping β}
    {g : α → Except MappingError β} (hk : ∀ a, (k a).run = pure (g a)) :
    (x >>= k).run = (· >>= g) <$> x.run := by
  rw [ExceptT.run_bind, map_eq_pure_bind]
  refine bind_congr fun found => ?_
  cases found with
  | ok a => exact hk a
  | error e => rfl

theorem Computes.andThen {α β : Type} {x : Mapping α} {k : α → Mapping β} {hs : List Handle}
    {f : (Handle → Spelling) → Except MappingError α} {g : α → Except MappingError β}
    (hx : m.Computes x.run hs f) (hk : ∀ a, (k a).run = Pure.pure (g a)) :
    m.Computes (x >>= k).run hs fun s => f s >>= g := by
  rw [run_bind_of_pure hk]
  exact hx.map _

theorem computes_map (hr : m.registry.WellFormed) (h : Handle) :
    m.Computes (m.map h).run (m.admitted h) (m.answer · h) := by
  cases hd : m.registry.depth? h with
  | none =>
    simp only [map, admitted, answer, hd]
    exact .pure _
  | some depth =>
    by_cases hlt : m.maxDepth < depth
    · simp only [map, admitted, answer, hd, if_pos hlt]
      exact .pure _
    · simp only [map, admitted, answer, hd, if_neg hlt]
      exact (computes_remember hr h).map Except.ok

theorem fresh_map (hr : m.registry.WellFormed) (ha : m.Admits h) :
    Memo.fresh (m.map h).run = .ok (m.spelling h) := by
  rw [(computes_map hr h).fresh hr, answer_of_admits _ ha]

/-- The text stands for the type where something has to be written: a call for the type over the memo finds
it, or finds that the type is inferred, and the text is the fallback. -/
def WritesOver (m : Mapper) (memo : Memo) (h : Handle) (text : String) : Prop :=
  ((m.map h).run.run memo).1 = .ok (.written text) ∨
    ((m.map h).run.run memo).1 = .ok .inferred ∧ text = m.fallback

/-- The same over a memo that holds nothing yet. -/
def Writes (m : Mapper) (h : Handle) (text : String) : Prop :=
  m.WritesOver .empty h text

theorem writesOver_iff {memo : Memo} {text : String} : m.WritesOver memo h text ↔
    ∃ s, ((m.map h).run.run memo).1 = .ok s ∧ s.textOr m.fallback = text := by
  constructor
  · rintro (hs | ⟨hs, rfl⟩)
    · exact ⟨_, hs, rfl⟩
    · exact ⟨_, hs, rfl⟩
  · rintro ⟨text | _, hs, rfl⟩
    · exact .inl hs
    · exact .inr ⟨hs, rfl⟩

theorem WritesOver.unique {memo : Memo} {text text' : String} (ht : m.WritesOver memo h text)
    (ht' : m.WritesOver memo h text') : text = text' := by
  obtain ⟨s, hs, rfl⟩ := writesOver_iff.1 ht
  obtain ⟨s', hs', rfl⟩ := writesOver_iff.1 ht'
  rw [Except.ok.inj (hs.symm.trans hs')]

theorem forall₂_writesOver_unique {memo : Memo} {hs : List Handle} {texts texts' : List String}
    (ht : List.Forall₂ (m.WritesOver memo) hs texts) (ht' : List.Forall₂ (m.WritesOver memo) hs texts') :
    texts = texts' :=
  have hunique : Relator.RightUnique (m.WritesOver memo) := fun _ _ _ => WritesOver.unique
  hunique.forall₂ ht ht'

theorem writes_of_admits (hr : m.registry.WellFormed) (ha : m.Admits h) :
    m.Writes h ((m.spelling h).textOr m.fallback) :=
  writesOver_iff.2 ⟨_, fresh_map hr ha, rfl⟩

theorem forall₂_writes {hs : List Handle} (hr : m.registry.WellFormed) (ha : ∀ c ∈ hs, m.Admits c) :
    List.Forall₂ m.Writes hs (hs.map fun c => (m.spelling c).textOr m.fallback) :=
  List.forall₂_map_right_iff.2 (List.forall₂_same.2 fun c hc => writes_of_admits hr (ha c hc))

theorem computes_mapText (hr : m.registry.WellFormed) (h : Handle) :
    m.Computes (m.mapText h).run (m.admitted h) fun s => (·.text?) <$> m.answer s h := by
  rw [mapText, ExceptT.run_map]
  exact (computes_map hr h).map _

theorem computes_suffix (hr : m.registry.WellFormed) (h : Handle) :
    m.Computes (m.suffix h).run (m.admitted h) fun s => (·.suffix) <$> m.answer s h := by
  rw [suffix, ExceptT.run_map]
  exact (computes_map hr h).map _

theorem computes_mapAll (hr : m.registry.WellFormed) (hs : List Handle) :
    m.Computes (m.mapAll hs) (hs.flatMap m.admitted) fun s => hs.map (m.answer s) :=
  .mapM hr fun h _ => computes_map hr h

def promotionAnswer (m : Mapper) (spelled : Handle → Spelling) (h : Handle) :
    Except MappingError Bool :=
  match m.registry.find h with
  | .error e => .error (.unknown e)
  | .ok d =>
    if d.isValue then (fun s => !(s.text?.any Target.isNativeValue)) <$> m.answer spelled h
    else .ok false

theorem computes_needsPromotion (hr : m.registry.WellFormed) (h : Handle) :
    m.Computes (m.needsPromotion h).run (if m.registry.isValue h then m.admitted h else [])
      (m.promotionAnswer · h) := by
  cases hd : m.registry.get? h with
  | none =>
    simp only [needsPromotion, promotionAnswer, Registry.find, Registry.isValue, hd]
    exact .pure _
  | some d =>
    cases hv : d.isValue with
    | false =>
      simp only [needsPromotion, promotionAnswer, Registry.find, Registry.isValue, hd, hv,
        Option.any_some]
      exact .pure _
    | true =>
      simp only [needsPromotion, promotionAnswer, Registry.find, Registry.isValue, hd, hv,
        Option.any_some, if_true]
      exact (computes_map hr h).andThen fun _ => rfl

/-! ### Nodes -/

def nodeAnswer (m : Mapper) (fe : FrontEnd ν) (node : ν) (spelled : Handle → Spelling) :
    Except MappingError (Option String) :=
  match fe.typeOf? node with
  | some h => (·.text?) <$> m.answer spelled h
  | none => .ok none

def nodeAdmitted (m : Mapper) (fe : FrontEnd ν) (node : ν) : List Handle :=
  match fe.typeOf? node with
  | some h => m.admitted h
  | none => []

theorem lt_size_of_mem_nodeAdmitted {fe : FrontEnd ν} {node : ν} (hr : m.registry.WellFormed)
    (hc : c ∈ m.nodeAdmitted fe node) : c < m.registry.size := by
  unfold nodeAdmitted at hc
  split at hc
  · exact lt_size_of_mem_admitted hr hc
  · cases hc

variable (fe : FrontEnd ν) (node : ν)

theorem computes_nodeText? (hr : m.registry.WellFormed) :
    m.Computes (m.nodeText? fe node).run (m.nodeAdmitted fe node) (m.nodeAnswer fe node) := by
  unfold nodeText? nodeAnswer nodeAdmitted
  cases fe.typeOf? node with
  | none => exact .pure _
  | some h => exact computes_mapText hr h

theorem computes_nodeText (hr : m.registry.WellFormed) :
    m.Computes (m.nodeText fe node).run (m.nodeAdmitted fe node) fun s =>
      m.nodeAnswer fe node s >>= fun text? =>
        text?.elim (.error (.unresolved (fe.describe node))) .ok := by
  refine (computes_nodeText? fe node hr).andThen fun text? => ?_
  cases text? <;> rfl

theorem computes_nodeSuffix (hr : m.registry.WellFormed) :
    m.Computes (m.nodeSuffix fe node).run (m.nodeAdmitted fe node) fun s =>
      (fun text? => text?.elim "" (": " ++ ·)) <$> m.nodeAnswer fe node s := by
  refine (computes_nodeText? fe node hr).andThen fun text? => ?_
  cases text? <;> rfl

end Mapper
end TypeBridge
