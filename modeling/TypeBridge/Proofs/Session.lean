import TypeBridge.Proofs.Calls
import TypeBridge.Proofs.SameSpelling

/-!
# Sessions over one memo

A session is a registry that grows and a memo that is kept all along, while types are constructed
and mapped in any order, each call with a depth limit of its own. The memo then never shows: what it
holds for a type is the spelling of the type (`Session.Sound`), which no construction changes.
-/

namespace TypeBridge

inductive Query (ν : Type)
  | map (h : Handle)
  | text (h : Handle)
  | suffix (h : Handle)
  | all (hs : List Handle)
  | promotion (h : Handle)
  | nodeText? (fe : FrontEnd ν) (node : ν)
  | nodeText (fe : FrontEnd ν) (node : ν)
  | nodeSuffix (fe : FrontEnd ν) (node : ν)

namespace Query
variable {ν : Type}

def Answer : Query ν → Type
  | map _ => Except MappingError Spelling
  | text _ | nodeText? _ _ => Except MappingError (Option String)
  | suffix _ | nodeText _ _ | nodeSuffix _ _ => Except MappingError String
  | all _ => List (Except MappingError Spelling)
  | promotion _ => Except MappingError Bool

def ask (m : Mapper) : (q : Query ν) → StateM Memo q.Answer
  | map h => (m.map h).run
  | text h => (m.mapText h).run
  | suffix h => (m.suffix h).run
  | all hs => m.mapAll hs
  | promotion h => (m.needsPromotion h).run
  | nodeText? fe node => (m.nodeText? fe node).run
  | nodeText fe node => (m.nodeText fe node).run
  | nodeSuffix fe node => (m.nodeSuffix fe node).run

end Query

inductive Step (ν : Type)
  | construct (c : Construction)
  | ask (maxDepth : Nat) (q : Query ν)

structure Session where
  registry : Registry := .empty
  memo : Memo := .empty

namespace Mapper

/-- The mapper that reads another registry, with a depth limit of its own. -/
def reading (m : Mapper) (registry : Registry) (maxDepth : Nat) : Mapper :=
  { m with registry, maxDepth }

/-- The record types of the first registry have the same names in the second. -/
def KeepsNames (m : Mapper) (r r' : Registry) : Prop :=
  ∀ h members, r.form? h = some (.record members) →
    m.nameRecord r' h members = m.nameRecord r h members

/-- The name of a record type stays what it is when the registry grows. -/
def NamesStably (m : Mapper) : Prop :=
  ∀ (r : Registry) (c : Construction), r.Reachable → m.KeepsNames r (c.after r)

end Mapper

namespace Session
variable {ν : Type}

def step (m : Mapper) (s : Session) : Step ν → Session
  | .construct c => { s with registry := c.after s.registry }
  | .ask maxDepth q => { s with memo := ((q.ask (m.reading s.registry maxDepth)).run s.memo).2 }

def run (m : Mapper) (steps : List (Step ν)) : Session :=
  steps.foldl (step m) {}

end Session

open Registry

namespace Mapper

variable {m : Mapper} {r r' : Registry} {maxDepth maxDepth' : Nat} {h : Handle}

theorem alike_of_extends (hr : r.WellFormed) (hr' : r'.WellFormed) (hx : r.Extends r')
    (hn : m.KeepsNames r r') : (m.reading r maxDepth).Alike (m.reading r' maxDepth') := by
  refine ⟨rfl, rfl, fun a b ms₁ ms₂ hab ha hb => ?_⟩
  change r.form? a = some (.record ms₁) at ha
  change r'.form? b = some (.record ms₂) at hb
  show m.nameRecord r a ms₁ = m.nameRecord r' b ms₂
  obtain ⟨d, hd, hf⟩ := form?_eq_some ha
  have hlt := get?_eq_some_lt hd
  have hlt' : a < r'.size := Nat.lt_of_lt_of_le hlt hx.size_le
  -- both registries have the type under one handle
  have hu : r'.unfolding a = r'.unfolding b := (hx.unfolding hr hr' hlt).trans hab.tree
  obtain rfl := (unfolding_inj hr' hlt').1 hu
  have ha' : r'.form? a = some (.record ms₁) := by rw [form?, hx.get?_of_some hd, Option.map_some, hf]
  rw [ha'] at hb
  rw [← hn a ms₁ ha, Form.record.inj (Option.some.inj hb)]

theorem spelling_reading (hr : r.WellFormed) (hr' : r'.WellFormed) (hx : r.Extends r')
    (hn : m.KeepsNames r r') (hh : h < r.size) :
    (m.reading r' maxDepth').spelling h = (m.reading r maxDepth).spelling h :=
  ((SameType.of_extends hr hr' hx hh).spelling (alike_of_extends hr hr' hx hn)).symm

theorem spelling_reading_limit (hr : r.WellFormed) (maxDepth maxDepth' : Nat) (hh : h < r.size) :
    (m.reading r maxDepth').spelling h = (m.reading r maxDepth).spelling h :=
  spelling_reading hr hr (.refl r) (fun _ _ _ => rfl) hh

end Mapper

namespace Query
variable {m : Mapper} {ν : Type}

theorem exists_computes (hr : m.registry.WellFormed) (q : Query ν) :
    ∃ hs f, (∀ h ∈ hs, h < m.registry.size) ∧ m.Computes (q.ask m) hs f := by
  cases q with
  | map h => exact ⟨_, _, fun _ => Mapper.lt_size_of_mem_admitted hr, Mapper.computes_map hr h⟩
  | text h => exact ⟨_, _, fun _ => Mapper.lt_size_of_mem_admitted hr, Mapper.computes_mapText hr h⟩
  | suffix h => exact ⟨_, _, fun _ => Mapper.lt_size_of_mem_admitted hr, Mapper.computes_suffix hr h⟩
  | all hs =>
    refine ⟨_, _, fun h hh => ?_, Mapper.computes_mapAll hr hs⟩
    obtain ⟨h', -, hh⟩ := List.mem_flatMap.1 hh
    exact Mapper.lt_size_of_mem_admitted hr hh
  | promotion h =>
    refine ⟨_, _, fun h' hh => ?_, Mapper.computes_needsPromotion hr h⟩
    split_ifs at hh
    · exact Mapper.lt_size_of_mem_admitted hr hh
    · cases hh
  | nodeText? fe node =>
    exact ⟨_, _, fun _ => Mapper.lt_size_of_mem_nodeAdmitted hr, Mapper.computes_nodeText? fe node hr⟩
  | nodeText fe node =>
    exact ⟨_, _, fun _ => Mapper.lt_size_of_mem_nodeAdmitted hr, Mapper.computes_nodeText fe node hr⟩
  | nodeSuffix fe node =>
    exact ⟨_, _, fun _ => Mapper.lt_size_of_mem_nodeAdmitted hr, Mapper.computes_nodeSuffix fe node hr⟩

end Query

namespace Session
variable {ν : Type} {m : Mapper} {s : Session} {maxDepth : Nat} {h : Handle} {x : Spelling}

/-- The memo holds spellings of known types, and of these what they are. -/
structure Sound (m : Mapper) (s : Session) : Prop where
  reachable : s.registry.Reachable
  known : ∀ h ∈ s.memo, h < s.registry.size
  spelled : ∀ maxDepth h x, s.memo[h]? = some x → x = (m.reading s.registry maxDepth).spelling h

theorem sound_empty (m : Mapper) : Sound m {} :=
  ⟨⟨[], rfl⟩, fun _ hh => absurd hh Std.ExtTreeMap.not_mem_empty,
    fun _ _ _ hx => by simp [Memo.empty] at hx⟩

namespace Sound

theorem spellingOver_eq (hs : s.Sound m) (maxDepth : Nat) :
    (m.reading s.registry maxDepth).spellingOver s.memo = (m.reading s.registry maxDepth).spelling :=
  Mapper.spellingOver_eq_spelling hs.reachable.wellFormed (hs.spelled maxDepth)

theorem construct (hs : s.Sound m) (hm : m.NamesStably) (c : Construction) :
    (s.step m (.construct c : Step ν)).Sound m := by
  have hr := hs.reachable.wellFormed
  have hx := c.extends_after hr
  refine ⟨hs.reachable.after c, fun h hh => Nat.lt_of_lt_of_le (hs.known h hh) hx.size_le,
    fun maxDepth h x hxs => ?_⟩
  have hh := hs.known h (of_getElem?_eq_some hxs)
  rw [hs.spelled maxDepth h x hxs]
  exact (Mapper.spelling_reading hr (c.wellFormed_after hr) hx (hm _ c hs.reachable) hh).symm

theorem ask (hs : s.Sound m) (maxDepth : Nat) (q : Query ν) :
    (s.step m (.ask maxDepth q)).Sound m := by
  have hr := hs.reachable.wellFormed
  obtain ⟨needed, f, hneeded, hc⟩ := q.exists_computes (m := m.reading s.registry maxDepth) hr
  have hf := hc.fills s.memo
  have hknown : ∀ h ∈ (s.step m (.ask maxDepth q)).memo, h < s.registry.size := by
    intro h hh
    rcases (hf.mem_iff h).1 hh with hh | hh
    · exact hs.known h hh
    · exact Mapper.lt_size_of_missed hr hneeded hh
  refine ⟨hs.reachable, hknown, fun maxDepth' h x hx => ?_⟩
  have hh := hknown h (of_getElem?_eq_some hx)
  rw [hf.agrees h x hx, hs.spellingOver_eq maxDepth]
  exact (Mapper.spelling_reading_limit hr maxDepth maxDepth' hh).symm

theorem step (hs : s.Sound m) (hm : m.NamesStably) : ∀ next : Step ν, (s.step m next).Sound m
  | .construct c => hs.construct hm c
  | .ask maxDepth q => hs.ask maxDepth q

theorem run (hm : m.NamesStably) (steps : List (Step ν)) : (Session.run m steps).Sound m := by
  have hrun : ∀ s : Session, s.Sound m → (steps.foldl (Session.step m) s).Sound m := by
    induction steps with
    | nil => exact fun s hs => hs
    | cons next steps ih => exact fun s hs => ih _ (hs.step hm next)
  exact hrun _ (sound_empty m)

end Sound

/-- A memo that is kept through a whole session never shows. Whatever was constructed and mapped
before, each call answers as it does over an empty memo, and each entry of the memo is what mapping
its type over an empty memo gives, with any limit that admits the type. -/
theorem memo_is_transparent (hm : m.NamesStably) (steps : List (Step ν)) :
    let s := Session.run m steps
    (∀ maxDepth (q : Query ν), ((q.ask (m.reading s.registry maxDepth)).run s.memo).1 =
      Memo.fresh (q.ask (m.reading s.registry maxDepth))) ∧
    ∀ h x, s.memo[h]? = some x → ∃ depth, s.registry.depth? h = some depth ∧
      ∀ maxDepth, depth ≤ maxDepth →
        Memo.fresh ((m.reading s.registry maxDepth).map h).run = .ok x := by
  intro s
  have hs : s.Sound m := .run hm steps
  have hr := hs.reachable.wellFormed
  refine ⟨fun maxDepth q => ?_, fun h x hx => ?_⟩
  · obtain ⟨needed, f, -, hc⟩ := q.exists_computes (m := m.reading s.registry maxDepth) hr
    rw [hc.answer, hc.fresh hr, hs.spellingOver_eq]
  · have hh := hs.known h (of_getElem?_eq_some hx)
    obtain ⟨depth, hd⟩ := hr.exists_depth?_of_lt hh
    refine ⟨depth, hd, fun maxDepth hle => ?_⟩
    rw [(Mapper.computes_map hr h).fresh hr, Mapper.answer_of_admits _ ⟨depth, hd, hle⟩,
      hs.spelled maxDepth h x hx]

/-- A type that the memo holds is still refused under a tighter limit. -/
theorem memo_is_transparent_tighter_limit :
    let m : Mapper := { registry := .empty }
    let steps : List (Step Unit) :=
      [.construct (.builtin .int32), .construct (.array 0), .ask 1 (.map 1),
        .construct (.record [("values", 1)])]
    let s := Session.run m steps
    m.NamesStably ∧
      (((Query.map 1 : Query Unit).ask (m.reading s.registry 0)).run s.memo).1 =
        .error (.depthExceeded 0 1) := by
  intro m steps s
  have hm : m.NamesStably := fun _ _ _ _ _ _ => rfl
  refine ⟨hm, ?_⟩
  have hd : (m.reading s.registry 0).registry.depth? 1 = some 1 := by decide +kernel
  refine ((memo_is_transparent hm steps).1 0 (.map 1)).trans ?_
  show Memo.fresh ((m.reading s.registry 0).map 1).run = _
  simp only [Mapper.map, hd]
  rfl

end Session
end TypeBridge
