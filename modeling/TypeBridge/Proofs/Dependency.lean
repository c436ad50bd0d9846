import Mathlib.Data.List.Basic
import Mathlib.Logic.Relation
import Mathlib.Tactic.Common
import TypeBridge.Mapping.Mapper
import TypeBridge.Proofs.Layer
import TypeBridge.Proofs.RegistryInv

/-!
# What a type is spelled with

`Mapper.DependsOn u d` says, rule by rule, that the spelling of `u` is written with the spelling of
`d`. These are the holes of the outline of `u` (`mem_holes_iff`), and in a well-formed registry they
are all earlier than `u` (`DependsOn.lt`), although some are found through a type around `u`. So the
bounds in the recursion of the mapper are never met.
-/

namespace TypeBridge

namespace Form
variable {ρ : Type} {form : Form ρ} {d : Declared ρ} {c : ρ}

theorem references_of_declared? (hd : form.declared? = some d) : d.references ⊆ form.references := by
  intro c hc
  cases form <;> simp only [declared?, reduceCtorEq, Option.some.injEq] at hd <;> subst hd
  case delegate => simp [references, hc]
  all_goals exact hc

theorem mem_references_of_arguments (hc : c ∈ form.arguments) : c ∈ form.references := by
  cases form <;> simp_all [arguments, references, declared?, Declared.references]

theorem mem_references_of_definition? (hc : form.definition? = some c) : c ∈ form.references := by
  obtain ⟨d, hd, hdc⟩ := Option.bind_eq_some_iff.1 hc
  exact references_of_declared? hd (by simp [Declared.references, hdc])

end Form

namespace Registry
variable {r : Registry} {h c : Handle} {d : Declared Handle}

def form? (r : Registry) (h : Handle) : Option (Form Handle) :=
  (r.get? h).map (·.form)

theorem form?_eq_some {form : Form Handle} (hf : r.form? h = some form) :
    ∃ d, r.get? h = some d ∧ d.form = form :=
  Option.map_eq_some_iff.1 hf

def Refers (r : Registry) (h c : Handle) : Prop :=
  ∃ t, r.get? h = some t ∧ c ∈ t.references

theorem Refers.lt (hc : r.Refers h c) (hr : r.WellFormed) : c < h := by
  obtain ⟨t, ht, hc⟩ := hc
  exact hr.references_lt ht c hc

theorem lt_of_transGen_refers (hr : r.WellFormed) (hc : Relation.TransGen r.Refers h c) : c < h := by
  induction hc with
  | single hc => exact hc.lt hr
  | tail _ hc ih => exact Nat.lt_trans (hc.lt hr) ih

theorem refers_of_form? {form : Form Handle} (hf : r.form? h = some form)
    (hc : c ∈ form.references) : r.Refers h c := by
  obtain ⟨t, ht, rfl⟩ := form?_eq_some hf
  exact ⟨t, ht, hc⟩

theorem refers_of_mem_arguments (hc : c ∈ r.arguments h) : r.Refers h c := by
  unfold arguments at hc
  split at hc
  next t ht => exact ⟨t, ht, Form.mem_references_of_arguments hc⟩
  next => simp at hc

theorem refers_of_definition? (hc : r.definition? h = some c) : r.Refers h c := by
  obtain ⟨t, ht, htc⟩ := Option.bind_eq_some_iff.1 hc
  exact ⟨t, ht, Form.mem_references_of_definition? htc⟩

theorem definition?_lt (hr : r.WellFormed) (hc : r.definition? h = some c) : c < h :=
  (refers_of_definition? hc).lt hr

theorem exists_of_borrowed? (hc : r.borrowed? d = some c) :
    ∃ outer, d.outer = some outer ∧ c ∈ r.arguments outer := by
  obtain ⟨outer, houter, hc⟩ := Option.bind_eq_some_iff.1 hc
  obtain ⟨position, -, hc⟩ := Option.bind_eq_some_iff.1 hc
  exact ⟨outer, houter, List.mem_of_getElem? hc⟩

theorem transGen_refers_of_mem_writtenArguments (hc : c ∈ r.writtenArguments h) :
    Relation.TransGen r.Refers h c := by
  unfold writtenArguments at hc
  split at hc
  next argument hb =>
    rw [List.mem_singleton.1 hc]
    obtain ⟨d, hd, hb⟩ := Option.bind_eq_some_iff.1 hb
    obtain ⟨t, ht, htd⟩ := Option.bind_eq_some_iff.1 hd
    obtain ⟨outer, houter, harg⟩ := exists_of_borrowed? hb
    have hout : r.Refers h outer :=
      ⟨t, ht, Form.references_of_declared? htd (by simp [Declared.references, houter])⟩
    exact .tail (.single hout) (refers_of_mem_arguments harg)
  next => exact .single (refers_of_mem_arguments hc)

theorem isUnbound_of_definition? (hc : r.definition? h = some c) : r.isUnbound h = false := by
  obtain ⟨d, hd, hdc⟩ := Option.bind_eq_some_iff.1 hc
  obtain ⟨e, he, hec⟩ := Option.bind_eq_some_iff.1 hdc
  simp [isUnbound, hd, he, Declared.isBound, hec]

end Registry

namespace Mapper

/-- The type is spelled by its name: it is built in or declared, and neither an enumeration nor a
delegate. -/
def IsNamed (m : Mapper) (u : Handle) : Prop :=
  (∃ b, m.registry.form? u = some (.builtin b)) ∨ ∃ d, m.registry.form? u = some (.named d)

/-- The type is written as its definition with arguments after it. -/
structure IsExpanded (m : Mapper) (u : Handle) : Prop where
  generic : m.registry.isGeneric u = true
  bound : ∃ d, m.registry.definition? u = some d
  arguments : m.registry.writtenArguments u ≠ []
  kept : ∀ o, m.override? u = some o → o.skipsArguments = false

/-- The spelling of the first type is written with that of the second. -/
inductive DependsOn (m : Mapper) : Handle → Handle → Prop
  | element {u d} (hu : m.registry.form? u = some (.array d))
      (hd : m.registry.form? d ≠ some (.builtin .byte)) : DependsOn m u d
  | parameter {u d declared params result}
      (hu : m.registry.form? u = some (.delegate declared params result)) (hd : d ∈ params) :
      DependsOn m u d
  | result {u d declared params}
      (hu : m.registry.form? u = some (.delegate declared params d)) : DependsOn m u d
  | inner {u d} (hu : m.registry.form? u = some (.nullable d)) : DependsOn m u d
  | definition {u d} (hu : m.IsNamed u) (he : m.IsExpanded u)
      (hd : m.registry.definition? u = some d) : DependsOn m u d
  | argument {u d} (hu : m.IsNamed u) (he : m.IsExpanded u)
      (hd : d ∈ m.registry.writtenArguments u) : DependsOn m u d
  | replacement {u d o} (hu : m.IsNamed u) (he : ¬ m.IsExpanded u)
      (hs : standardSpelling? (m.registry.canonicalName u) = none)
      (ho : m.override? u = some o) (ha : o.rule.usesArguments = true)
      (hd : d ∈ m.registry.writtenArguments u) : DependsOn m u d

variable {m : Mapper} {u d h c : Handle}

theorem expansion?_eq_some_iff {arguments : List Handle} :
    m.expansion? h = some (d, arguments) ↔
      m.IsExpanded h ∧ m.registry.definition? h = some d ∧
        m.registry.writtenArguments h = arguments := by
  constructor
  · intro he
    unfold expansion? at he
    split_ifs at he with hc
    split at he
    next unbound first rest hd hargs =>
      obtain ⟨rfl, rfl⟩ := Prod.mk.inj (Option.some.inj he)
      simp only [Bool.and_eq_true, Registry.isBoundGeneric, Bool.not_eq_true',
        Option.any_eq_false] at hc
      exact ⟨⟨hc.1.1, ⟨_, hd⟩, by simp [hargs], fun o ho => by simpa using hc.2 o ho⟩, hd, hargs⟩
    next => cases he
  · rintro ⟨he, hd, hargs⟩
    have hskip : (m.override? h).any (·.skipsArguments) = false := by
      rw [Option.any_eq_false]
      exact fun o ho => by simp [he.kept o ho]
    unfold expansion?
    rw [Registry.isBoundGeneric, he.generic, Registry.isUnbound_of_definition? hd, hskip, hd]
    cases hw : m.registry.writtenArguments h with
    | nil => exact absurd hw he.arguments
    | cons first rest =>
      rw [hw] at hargs
      simp [hargs]

theorem expansion?_eq_none_iff : m.expansion? h = none ↔ ¬ m.IsExpanded h := by
  constructor
  · intro hn he
    obtain ⟨d, hd⟩ := he.bound
    rw [expansion?_eq_some_iff.2 ⟨he, hd, rfl⟩] at hn
    cases hn
  · intro hn
    cases hx : m.expansion? h with
    | none => rfl
    | some found => exact absurd (expansion?_eq_some_iff.1 hx).1 hn

theorem isByte_eq_false_iff :
    m.isByte d = false ↔ m.registry.form? d ≠ some (.builtin .byte) := by
  unfold isByte Registry.form?
  cases m.registry.get? d with
  | none => simp
  | some e => cases he : e.form <;> simp [Form.builtin?, he]

/-- What is shown for every rule by which a named type is outlined, first match first, holds of its
outline. -/
@[elab_as_elim]
theorem namedOutline_cases {motive : Outline Handle → Prop}
    (expanded : ∀ d, m.IsExpanded u → m.registry.definition? u = some d →
      motive (.applied d (m.registry.writtenArguments u)))
    (standard : ∀ s, ¬ m.IsExpanded u →
      standardSpelling? (m.registry.canonicalName u) = some s → motive (.fixed s))
    (replaced : ∀ o, ¬ m.IsExpanded u → standardSpelling? (m.registry.canonicalName u) = none →
      m.override? u = some o →
      motive (.replaced o.rule (m.registry.declaredName u).1 (m.registry.declaredName u).2
        (if o.rule.usesArguments then m.registry.writtenArguments u else [])))
    (otherwise : ¬ m.IsExpanded u → standardSpelling? (m.registry.canonicalName u) = none →
      m.override? u = none →
      motive (.fixed (.written
        (defaultName (m.registry.declaredName u).2 (m.registry.declaredName u).1)))) :
    motive (m.namedOutline u) := by
  unfold namedOutline
  cases hx : m.expansion? u with
  | some found =>
    obtain ⟨he, hd, hargs⟩ := expansion?_eq_some_iff.1 hx
    exact hargs ▸ expanded found.1 he hd
  | none =>
    have he := expansion?_eq_none_iff.1 hx
    cases hs : standardSpelling? (m.registry.canonicalName u) with
    | some s => exact standard s he hs
    | none =>
      cases ho : m.override? u with
      | some o => exact replaced o he hs ho
      | none => exact otherwise he hs ho

theorem mem_holes_namedOutline : d ∈ (m.namedOutline u).holes ↔
    (m.IsExpanded u ∧ (m.registry.definition? u = some d ∨ d ∈ m.registry.writtenArguments u)) ∨
    ¬ m.IsExpanded u ∧ standardSpelling? (m.registry.canonicalName u) = none ∧
      ∃ o, m.override? u = some o ∧ o.rule.usesArguments = true ∧
        d ∈ m.registry.writtenArguments u := by
  refine namedOutline_cases ?expanded ?standard ?replaced ?otherwise
  case expanded =>
    intro unbound he hd
    simp [Outline.holes, he, hd, @eq_comm _ unbound d]
  case standard =>
    intro s he hs
    simp [Outline.holes, he, hs]
  case replaced =>
    intro o he hs ho
    cases ha : o.rule.usesArguments <;> simp [Outline.holes, he, hs, ho, ha]
  case otherwise =>
    intro he hs ho
    simp [Outline.holes, he, ho]

theorem outline_of_isNamed (hn : m.IsNamed u) : m.outline u = m.namedOutline u := by
  unfold outline
  rcases hn with ⟨b, hf⟩ | ⟨declared, hf⟩ <;>
  · obtain ⟨e, he, hform⟩ := Registry.form?_eq_some hf
    simp only [he, hform]

theorem outline_of_isExpanded (hn : m.IsNamed u) (he : m.IsExpanded u)
    (hd : m.registry.definition? u = some d) :
    m.outline u = .applied d (m.registry.writtenArguments u) := by
  rw [outline_of_isNamed hn, namedOutline, expansion?_eq_some_iff.2 ⟨he, hd, rfl⟩]

theorem outline_of_array (hf : m.registry.form? u = some (.array d))
    (hb : m.registry.form? d ≠ some (.builtin .byte)) : m.outline u = .array d := by
  obtain ⟨t, ht, hform⟩ := Registry.form?_eq_some hf
  simp [outline, ht, hform, isByte_eq_false_iff.2 hb]

theorem outline_of_nullable (hf : m.registry.form? u = some (.nullable d)) :
    m.outline u = .nullable d := by
  obtain ⟨t, ht, hform⟩ := Registry.form?_eq_some hf
  simp only [outline, ht, hform]

theorem outline_of_delegate {declared : Declared Handle} {params : List Handle} {result : Handle}
    (hf : m.registry.form? u = some (.delegate declared params result)) :
    m.outline u = .function params result := by
  obtain ⟨t, ht, hform⟩ := Registry.form?_eq_some hf
  simp only [outline, ht, hform]

/-- What is shown for every kind of type holds of its outline. -/
@[elab_as_elim]
theorem outline_cases {motive : Outline Handle → Prop}
    (unknown : m.registry.form? u = none → motive (.fixed .inferred))
    (named : m.IsNamed u → motive (m.namedOutline u))
    (bytes : ∀ c, m.registry.form? u = some (.array c) →
      m.registry.form? c = some (.builtin .byte) → motive (.fixed (.written Target.bytes)))
    (array : ∀ c, m.registry.form? u = some (.array c) →
      m.registry.form? c ≠ some (.builtin .byte) → motive (.array c))
    (parameter : ∀ name, m.registry.form? u = some (.parameter name) →
      motive (.fixed (.written name)))
    (delegate : ∀ declared params result,
      m.registry.form? u = some (.delegate declared params result) →
      motive (.function params result))
    (enumeration : ∀ declared, m.registry.form? u = some (.enumeration declared) →
      motive (.fixed (.written Target.int)))
    (record : ∀ members, m.registry.form? u = some (.record members) →
      motive (.fixed (.written (m.nameRecord m.registry u members))))
    (nullable : ∀ c, m.registry.form? u = some (.nullable c) → motive (.nullable c)) :
    motive (m.outline u) := by
  cases hf : m.registry.form? u with
  | none =>
    rw [outline, Option.map_eq_none_iff.1 hf]
    exact unknown hf
  | some form =>
    obtain ⟨t, ht, hform⟩ := Registry.form?_eq_some hf
    unfold outline
    rw [ht]
    cases form with
    | builtin b => simpa only [hform] using named (.inl ⟨b, hf⟩)
    | named declared => simpa only [hform] using named (.inr ⟨declared, hf⟩)
    | array c =>
      simp only [hform]
      split_ifs with hb
      · exact bytes c hf (not_not.1 fun hne => by rw [isByte_eq_false_iff.2 hne] at hb; cases hb)
      · exact array c hf (isByte_eq_false_iff.1 (Bool.eq_false_iff.2 hb))
    | parameter name => simpa only [hform] using parameter name hf
    | delegate declared params result => simpa only [hform] using delegate declared params result hf
    | enumeration declared => simpa only [hform] using enumeration declared hf
    | record members => simpa only [hform] using record members hf
    | nullable c => simpa only [hform] using nullable c hf

theorem dependsOn_of_mem_holes : d ∈ (m.outline u).holes → m.DependsOn u d := by
  refine outline_cases ?unknown ?named ?bytes ?array ?parameter ?delegate ?enumeration ?record ?nullable
  case named =>
    intro hn hd
    rcases mem_holes_namedOutline.1 hd with ⟨he, hd | hd⟩ | ⟨he, hs, o, ho, ha, hd⟩
    · exact .definition hn he hd
    · exact .argument hn he hd
    · exact .replacement hn he hs ho ha hd
  case array =>
    intro c hf hb hd
    exact List.mem_singleton.1 hd ▸ .element hf hb
  case delegate =>
    intro declared params result hf hd
    rcases List.mem_append.1 hd with hd | hd
    · exact .parameter hf hd
    · exact List.mem_singleton.1 hd ▸ .result hf
  case nullable =>
    intro c hf hd
    exact List.mem_singleton.1 hd ▸ .inner hf
  -- the others are written with no type
  case unknown | bytes | parameter | enumeration | record =>
    intros
    contradiction

theorem DependsOn.mem_holes (hd : m.DependsOn u d) : d ∈ (m.outline u).holes := by
  cases hd with
  | element hf hb =>
    rw [outline_of_array hf hb]
    exact List.mem_singleton_self d
  | parameter hf hd =>
    rw [outline_of_delegate hf]
    exact List.mem_append_left _ hd
  | result hf =>
    rw [outline_of_delegate hf]
    exact List.mem_append_right _ (List.mem_singleton_self d)
  | inner hf =>
    rw [outline_of_nullable hf]
    exact List.mem_singleton_self d
  | definition hn he hd =>
    rw [outline_of_isExpanded hn he hd]
    exact List.mem_cons_self
  | argument hn he hd =>
    obtain ⟨unbound, hu⟩ := he.bound
    rw [outline_of_isExpanded hn he hu]
    exact List.mem_cons_of_mem unbound hd
  | replacement hn he hs ho ha hd =>
    rw [outline_of_isNamed hn]
    exact mem_holes_namedOutline.2 (.inr ⟨he, hs, _, ho, ha, hd⟩)

theorem mem_holes_iff : d ∈ (m.outline u).holes ↔ m.DependsOn u d :=
  ⟨dependsOn_of_mem_holes, DependsOn.mem_holes⟩

theorem DependsOn.transGen_refers (hd : m.DependsOn u d) :
    Relation.TransGen m.registry.Refers u d := by
  cases hd with
  | element hf => exact .single (Registry.refers_of_form? hf (List.mem_singleton_self _))
  | parameter hf hd => exact .single (Registry.refers_of_form? hf (by simp [Form.references, hd]))
  | result hf => exact .single (Registry.refers_of_form? hf (by simp [Form.references]))
  | inner hf => exact .single (Registry.refers_of_form? hf (List.mem_singleton_self _))
  | definition _ _ hd => exact .single (Registry.refers_of_definition? hd)
  | argument _ _ hd => exact Registry.transGen_refers_of_mem_writtenArguments hd
  | replacement _ _ _ _ _ hd => exact Registry.transGen_refers_of_mem_writtenArguments hd

theorem DependsOn.lt (hr : m.registry.WellFormed) (hd : m.DependsOn u d) : d < u :=
  Registry.lt_of_transGen_refers hr hd.transGen_refers

theorem hole_lt (hr : m.registry.WellFormed) (hd : d ∈ (m.outline u).holes) : d < u :=
  (mem_holes_iff.1 hd).lt hr

/-- The spelling of a type, written with the given spellings of other types. -/
def spellingFrom (m : Mapper) (spelled : Handle → Spelling) (h : Handle) : Spelling :=
  ((m.outline h).map fun c => (spelled c).textOr m.fallback).spelling m.fallback

theorem spellingFrom_congr {s₁ s₂ : Handle → Spelling} (hr : m.registry.WellFormed)
    (hs : ∀ c < h, s₁ c = s₂ c) : m.spellingFrom s₁ h = m.spellingFrom s₂ h := by
  refine congrArg (Outline.spelling m.fallback) (Outline.map_congr fun c hc => ?_)
  rw [hs c (hole_lt hr hc)]

/-- A spelling that is written with those of earlier types only, whatever it takes for the others. -/
theorem spellingFrom_eq {s : Handle → Spelling} (hr : m.registry.WellFormed) :
    ((m.outline h).map fun c => if _hc : c < h then (s c).textOr m.fallback else m.fallback).spelling
      m.fallback = m.spellingFrom s h := by
  refine congrArg (Outline.spelling m.fallback) (Outline.map_congr fun c hc => ?_)
  rw [dif_pos (hole_lt hr hc)]

theorem spelling_eq (hr : m.registry.WellFormed) (h : Handle) :
    m.spelling h = m.spellingFrom m.spelling h := by
  rw [spelling, spellingFrom_eq hr]

theorem spelling_of_array (hr : m.registry.WellFormed) (hf : m.registry.form? h = some (.array c))
    (hb : m.registry.form? c ≠ some (.builtin .byte)) :
    m.spelling h = .written (Target.applied Target.array [(m.spelling c).textOr m.fallback]) := by
  rw [spelling_eq hr, spellingFrom, outline_of_array hf hb]
  rfl

theorem spelling_of_nullable (hr : m.registry.WellFormed)
    (hf : m.registry.form? h = some (.nullable c)) :
    m.spelling h = .written (Target.optional ((m.spelling c).textOr m.fallback)) := by
  rw [spelling_eq hr, spellingFrom, outline_of_nullable hf]
  rfl

theorem spelling_of_delegate {declared : Declared Handle} {params : List Handle} {result : Handle}
    (hr : m.registry.WellFormed)
    (hf : m.registry.form? h = some (.delegate declared params result)) :
    m.spelling h = .written (Target.function
      (params.map fun c => (m.spelling c).textOr m.fallback) ((m.spelling result).textOr m.fallback)) := by
  rw [spelling_eq hr, spellingFrom, outline_of_delegate hf]
  rfl

/-! ### The rules for named types -/

theorem spelling_of_isExpanded (hr : m.registry.WellFormed) (hn : m.IsNamed h) (he : m.IsExpanded h)
    (hd : m.registry.definition? h = some d) :
    m.spelling h = .written (Target.applied ((m.spelling d).textOr m.fallback)
      ((m.registry.writtenArguments h).map fun c => (m.spelling c).textOr m.fallback)) := by
  rw [spelling_eq hr, spellingFrom, outline_of_isExpanded hn he hd]
  rfl

theorem spelling_of_standardSpelling? {s : Spelling} (hr : m.registry.WellFormed) (hn : m.IsNamed h)
    (he : ¬ m.IsExpanded h) (hs : standardSpelling? (m.registry.canonicalName h) = some s) :
    m.spelling h = s := by
  rw [spelling_eq hr, spellingFrom, outline_of_isNamed hn, namedOutline, expansion?_eq_none_iff.2 he,
    hs]
  rfl

theorem spelling_of_override {o : Override} (hr : m.registry.WellFormed) (hn : m.IsNamed h)
    (he : ¬ m.IsExpanded h) (hs : standardSpelling? (m.registry.canonicalName h) = none)
    (ho : m.override? h = some o) : m.spelling h = .written (o.rule.apply
      { name := (m.registry.declaredName h).1
        namespaceName := (m.registry.declaredName h).2
        arguments := (if o.rule.usesArguments then m.registry.writtenArguments h else []).map fun c =>
          (m.spelling c).textOr m.fallback
        fallback := m.fallback }) := by
  rw [spelling_eq hr, spellingFrom, outline_of_isNamed hn, namedOutline, expansion?_eq_none_iff.2 he,
    hs, ho]
  rfl

theorem spelling_of_unknown (hr : m.registry.WellFormed) (hn : m.IsNamed h) (he : ¬ m.IsExpanded h)
    (hs : standardSpelling? (m.registry.canonicalName h) = none) (ho : m.override? h = none) :
    m.spelling h = .written
      (defaultName (m.registry.declaredName h).2 (m.registry.declaredName h).1) := by
  rw [spelling_eq hr, spellingFrom, outline_of_isNamed hn, namedOutline, expansion?_eq_none_iff.2 he,
    hs, ho]
  rfl

/-- What every rule keeps, when it holds of all texts that are written in, holds of every spelling. -/
theorem spelling_induction {P : Spelling → Prop} {Q : String → Prop} (hr : m.registry.WellFormed)
    (text : ∀ s, P s → Q (s.textOr m.fallback))
    (rule : ∀ h, let filled := (m.outline h).map fun c => (m.spelling c).textOr m.fallback
      (∀ t ∈ filled.holes, Q t) → P (filled.spelling m.fallback)) (h : Handle) : P (m.spelling h) := by
  induction h using Nat.strongRecOn with
  | ind h ih =>
    rw [spelling_eq hr, spellingFrom]
    refine rule h fun t ht => ?_
    rw [Outline.holes_map, List.mem_map] at ht
    obtain ⟨c, hc, rfl⟩ := ht
    exact text _ (ih c (hole_lt hr hc))

end Mapper
end TypeBridge
