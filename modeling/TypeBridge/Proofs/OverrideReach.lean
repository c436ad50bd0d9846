import TypeBridge.Proofs.Calls
import TypeBridge.Proofs.Declaration

/-!
# How far overrides reach

An override is found by the canonical name of a type, but not every type asks for one, and not every
one that is found is followed. Only the outlines of named types look at overrides: at the wish to leave
out arguments always, and at the rest of the entry unless the fixed table has the name
(`outline_congr`). A call is decided by the outlines of the types that it comes to (`remember_congr`),
so overrides that agree for these cannot be told apart by it (`overrides_reach`).
-/

namespace TypeBridge

/-- The overrides for the name ask for the same: to leave out arguments or not, and, unless the fixed
table has the name, for the same replacement. -/
structure Overrides.SameFor (os₁ os₂ : Overrides) (name : String) : Prop where
  skips : (os₁.lookup name).any (·.skipsArguments) = (os₂.lookup name).any (·.skipsArguments)
  entry : standardSpelling? name = none → os₁.lookup name = os₂.lookup name

namespace Mapper

variable {m m₁ m₂ : Mapper} {os₁ os₂ : Overrides} {h u : Handle}

def following (m : Mapper) (os : Overrides) : Mapper :=
  { m with overrides := os }

theorem remember_congr (hr : m₁.registry.WellFormed) (hfallback : m₁.fallback = m₂.fallback)
    (ho : ∀ u, Relation.ReflTransGen m₁.DependsOn h u → m₁.outline u = m₂.outline u) :
    m₁.remember h = m₂.remember h := by
  induction h using Nat.strongRecOn with
  | ind h ih =>
    rw [remember, remember, ← ho h .refl, ← hfallback]
    refine congrArg (Memo.remember h) (congrArg (· >>= _) (Outline.fill_congr fun c hc => ?_))
    have hlt := hole_lt hr hc
    rw [dif_pos hlt, dif_pos hlt,
      ih c hlt fun u hu => ho u (.head (mem_holes_iff.1 hc) hu)]

theorem expansion?_congr (hs : os₁.SameFor os₂ (m.registry.canonicalName u)) :
    (m.following os₁).expansion? u = (m.following os₂).expansion? u := by
  have hskips : ((m.following os₁).override? u).any (·.skipsArguments) =
      ((m.following os₂).override? u).any (·.skipsArguments) := hs.skips
  unfold expansion?
  rw [hskips]
  rfl

theorem namedOutline_congr (hs : os₁.SameFor os₂ (m.registry.canonicalName u)) :
    (m.following os₁).namedOutline u = (m.following os₂).namedOutline u := by
  have hname : ∀ os, standardSpelling? ((m.following os).registry.canonicalName u) =
      standardSpelling? (m.registry.canonicalName u) := fun _ => rfl
  unfold namedOutline
  rw [expansion?_congr hs, hname, hname]
  cases (m.following os₂).expansion? u with
  | some found => rfl
  | none =>
    cases hstandard : standardSpelling? (m.registry.canonicalName u) with
    | some s => rfl
    | none =>
      have hentry : (m.following os₁).override? u = (m.following os₂).override? u :=
        hs.entry hstandard
      rw [hentry]
      rfl

theorem outline_of_not_isNamed (hn : ¬ m.IsNamed u) (os₁ os₂ : Overrides) :
    (m.following os₁).outline u = (m.following os₂).outline u := by
  cases hu : m.registry.get? u with
  | none =>
    have hout : ∀ os, (m.following os).outline u = .fixed .inferred := by
      intro os
      simp only [outline, following, hu]
    rw [hout, hout]
  | some t =>
    have hform := Registry.form?_of_get? hu
    cases hf : t.form with
    | builtin b => exact absurd (.inl ⟨b, by rw [hform, hf]⟩) hn
    | named d => exact absurd (.inr ⟨d, by rw [hform, hf]⟩) hn
    | array element =>
      simp only [outline, following, hu, hf]
      rfl
    | _ => simp only [outline, following, hu, hf]

theorem outline_congr
    (hs : m.IsNamed u → os₁.SameFor os₂ (m.registry.canonicalName u)) :
    (m.following os₁).outline u = (m.following os₂).outline u := by
  by_cases hn : m.IsNamed u
  · have hnamed : ∀ os, (m.following os).outline u = (m.following os).namedOutline u :=
      fun _ => outline_of_isNamed hn
    rw [hnamed, hnamed, namedOutline_congr (hs hn)]
  · exact outline_of_not_isNamed hn os₁ os₂

/-- A replacement is the rule of the entry for a named type, and the fixed table does not have its
name. -/
theorem outline_eq_replaced {rule : Rule} {name namespaceName : String} {arguments : List Handle} :
    m.outline u = .replaced rule name namespaceName arguments →
    m.IsNamed u ∧ standardSpelling? (m.registry.canonicalName u) = none ∧
      ∃ o, m.override? u = some o ∧ o.rule = rule := by
  refine outline_cases ?unknown ?named ?bytes ?array ?parameter ?delegate ?enumeration ?record ?nullable
  case named =>
    intro hn
    refine namedOutline_cases ?expanded ?standard ?replaced ?otherwise
    case replaced => exact fun o _ hs ho hout => ⟨hn, hs, o, ho, (Outline.replaced.inj hout).1⟩
    case expanded | standard | otherwise => intros; contradiction
  case unknown | bytes | array | parameter | delegate | enumeration | record | nullable =>
    intros
    contradiction

theorem map_congr (hr : m₁.registry.WellFormed) (hregistry : m₁.registry = m₂.registry)
    (hlimit : m₁.maxDepth = m₂.maxDepth) (hfallback : m₁.fallback = m₂.fallback)
    (ho : ∀ u, Relation.ReflTransGen m₁.DependsOn h u → m₁.outline u = m₂.outline u) :
    m₁.map h = m₂.map h := by
  rw [map, map, ← hregistry, ← hlimit, remember_congr hr hfallback ho]

/-- Mappers that differ in their overrides only map a type alike, over every memo, when for each named
type that they come to the overrides ask for the same. A rule is applied to named types alone, and
never to one that the fixed table has; so a type of any other shape is mapped alike as soon as the
overrides for the named types inside it are the same, whatever there is for the name of the type
itself. -/
theorem overrides_reach (hr : m.registry.Reachable) (os₁ os₂ : Overrides) (h : Handle) :
    ((∀ u, Relation.ReflTransGen (m.following os₁).DependsOn h u → m.IsNamed u →
        os₁.SameFor os₂ (m.registry.canonicalName u)) →
      ∀ memo, ((m.following os₁).map h).run.run memo = ((m.following os₂).map h).run.run memo) ∧
    (∀ rule name namespaceName arguments,
      (m.following os₁).outline h = .replaced rule name namespaceName arguments →
      m.IsNamed h ∧ standardSpelling? (m.registry.canonicalName h) = none ∧
        ∃ o, os₁.lookup (m.registry.canonicalName h) = some o ∧ o.rule = rule) ∧
    (¬ m.IsNamed h →
      (∀ u, Relation.TransGen (m.following os₁).DependsOn h u → m.IsNamed u →
        os₁.lookup (m.registry.canonicalName u) = os₂.lookup (m.registry.canonicalName u)) →
      ∀ memo, ((m.following os₁).map h).run.run memo = ((m.following os₂).map h).run.run memo) := by
  have hwf : (m.following os₁).registry.WellFormed := hr.wellFormed
  have hmap : (∀ u, Relation.ReflTransGen (m.following os₁).DependsOn h u → m.IsNamed u →
      os₁.SameFor os₂ (m.registry.canonicalName u)) →
      (m.following os₁).map h = (m.following os₂).map h :=
    fun hs => map_congr hwf rfl rfl rfl fun u hu => outline_congr (hs u hu)
  refine ⟨fun hs memo => by rw [hmap hs], fun _ _ _ _ ho => outline_eq_replaced ho,
    fun hn hs memo => ?_⟩
  rw [hmap fun u hu hnu => ?_]
  rcases Relation.reflTransGen_iff_eq_or_transGen.1 hu with rfl | hu
  · exact absurd hnu hn
  · have hentry := hs u hu hnu
    exact ⟨by rw [hentry], fun _ => hentry⟩

/-- An array of boxed integers. There is a rule for boxes, and another for integers and for just such
arrays changes nothing. -/
theorem overrides_reach_boxes :
    let boxes : Override := ⟨"Lib.Box<>", .rename "Crate", false⟩
    let os₂ : Overrides := ⟨Overrides.empty.byName.insert boxes.typeName boxes⟩
    let os₁ : Overrides :=
      ⟨(os₂.byName.insert "System.Int32" ⟨"System.Int32", .rename "Number", false⟩).insert
        "Lib.Box<>[]" ⟨"Lib.Box<>[]", .rename "Crates", false⟩⟩
    let m : Mapper :=
      { registry := .ofConstructions
          [.builtin .int32, .generic "Lib" "Box" 1 false, .instantiate 1 [0], .array 2] }
    m.registry.canonicalName 3 = "Lib.Box<>[]" ∧
      ((m.following os₂).map 3).run.run .empty = ((m.following os₁).map 3).run.run .empty ∧
      (((m.following os₁).map 3).run.run .empty).1 = .ok (.written "Array<Crate<Int>>") := by
  intro boxes os₂ os₁ m
  have hr : m.registry.Reachable := ⟨_, rfl⟩
  obtain ⟨hsame, -, -⟩ := overrides_reach hr os₁ os₂ 3
  have hle : ∀ u, Relation.ReflTransGen (m.following os₁).DependsOn 3 u → u ≤ 3 := by
    intro u hu
    induction hu with
    | refl => exact Nat.le_refl 3
    | tail _ hd ih =>
      have hlt := hd.lt (m := m.following os₁) hr.wellFormed
      exact Nat.le_trans (Nat.le_of_lt hlt) ih
  have harray : m.registry.form? 3 = some (.array 2) := by decide +kernel
  refine ⟨by decide +kernel, (hsame (fun u hu hn => ?_) .empty).symm, by decide +kernel⟩
  obtain hu | rfl := Nat.lt_or_eq_of_le (hle u hu)
  · have hskips : ∀ u < 3, (os₁.lookup (m.registry.canonicalName u)).any (·.skipsArguments) =
        (os₂.lookup (m.registry.canonicalName u)).any (·.skipsArguments) := by decide +kernel
    have hentry : ∀ u < 3, standardSpelling? (m.registry.canonicalName u) = none →
        os₁.lookup (m.registry.canonicalName u) = os₂.lookup (m.registry.canonicalName u) := by
      decide +kernel
    exact ⟨hskips u hu, hentry u hu⟩
  · -- the array itself is not named
    rcases hn with ⟨b, hb⟩ | ⟨d, hd⟩
    · cases harray.symm.trans hb
    · cases harray.symm.trans hd

end Mapper
end TypeBridge
