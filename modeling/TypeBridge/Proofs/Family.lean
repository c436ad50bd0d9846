import TypeBridge.Proofs.CanonicalName
import TypeBridge.Proofs.Depth

/-!
# Bound types are written as their definitions

A bound type and its definition have one canonical name and one declared name, so every rule that looks at
names only treats both alike. Of what is bound in a type nothing is left in its definition, not even an
argument of a type around (`writtenArguments_definition`). So the definition is never written with
arguments, and the two can differ in arguments alone (`map_family`).
-/

namespace TypeBridge

namespace Registry.Coherent
variable {r : Registry} {h u : Handle} {d : Declared Handle}

theorem canonicalName_definition (hr : r.Coherent) (hu : r.definition? h = some u) :
    r.canonicalName u = r.canonicalName h := by
  obtain ⟨d, hd, hdu⟩ := exists_declared?_of_definition? hu
  have hnames := hr.map_enclosing_unboundForm (f := Declared.unboundName) (fun _ _ => rfl) h
  rw [unboundForm_of_definition? hu] at hnames
  rw [hr.canonicalName_eq hd, hr.canonicalName_eq (hr.declared?_definition hd hdu), hnames]
  rfl

theorem declaredName_definition (hr : r.Coherent) (hu : r.definition? h = some u) :
    r.declaredName u = r.declaredName h := by
  obtain ⟨d, hd, hdu⟩ := exists_declared?_of_definition? hu
  have hdef := hr.declared?_definition hd hdu
  have hnames := hr.map_enclosing_unboundForm (f := (·.name)) (fun _ _ => rfl) h
  rw [unboundForm_of_definition? hu] at hnames
  rw [declaredName_of_declared? hd, declaredName_of_declared? hdef, hr.flatName?_eq hd,
    hr.flatName?_eq hdef, hnames]
  rfl

theorem arguments_unboundForm (hr : r.Coherent) (hd : r.declared? h = some d) :
    r.arguments (r.unboundForm h) = [] := by
  cases hu : r.definition? h with
  | none =>
    rw [unboundForm_of_definition?_eq_none hu, arguments_of_declared? hd, hr.arguments_eq_nil hd hu]
  | some u => rw [unboundForm_of_definition? hu, (hr.isDefinition hu).noArguments]

/-- A definition has no arguments, nor can it borrow one: the type around it is unbound too. -/
theorem writtenArguments_definition (hr : r.Coherent) (hu : r.definition? h = some u) :
    r.writtenArguments u = [] := by
  obtain ⟨d, hd, hdu⟩ := exists_declared?_of_definition? hu
  have hdef := hr.declared?_definition hd hdu
  have hborrowed : r.borrowed? (d.unbind r.unboundForm) = none := by
    cases ho : d.outer with
    | none => simp [borrowed?, Declared.unbind, ho]
    | some o =>
      obtain ⟨t, -, hcoh⟩ := hr.of_declared? hd
      obtain ⟨around, hf, -⟩ := hcoh.outer o ho
      simp [borrowed?, Declared.unbind, ho, hr.arguments_unboundForm (declared?_of_named hf)]
  have hread : (r.get? u).bind (·.form.declared?) = some (d.unbind r.unboundForm) := hdef
  rw [writtenArguments, hread, Option.bind_some, hborrowed]
  exact (hr.isDefinition hu).noArguments

end Registry.Coherent

namespace Mapper
variable {m : Mapper} {h u : Handle}

theorem isExpanded_iff (hr : m.registry.Coherent) (hu : m.registry.definition? h = some u) :
    m.IsExpanded h ↔ m.registry.writtenArguments h ≠ [] ∧
      ∀ o, m.override? h = some o → o.skipsArguments = false :=
  ⟨fun he => ⟨he.arguments, he.kept⟩, fun ⟨hargs, hkept⟩ =>
    ⟨(hr.isGeneric_of_definition? hu).1, ⟨u, hu⟩, hargs, hkept⟩⟩

theorem isNamed_definition (hr : m.registry.Coherent) (hn : m.IsNamed h)
    (hu : m.registry.definition? h = some u) : m.IsNamed u := by
  obtain ⟨d, hd, hdu⟩ := Registry.exists_declared?_of_definition? hu
  rcases hn with ⟨b, hf⟩ | ⟨d', hf⟩
  · obtain ⟨t, ht, hform⟩ := Registry.form?_eq_some hf
    rw [Registry.declared?_of_get? ht, hform] at hd
    cases hd
  · obtain rfl := Option.some.inj (hd.symm.trans (Registry.declared?_of_named hf))
    exact .inr ⟨_, hr.form?_definition hf hdu⟩

theorem not_isExpanded_definition (hr : m.registry.Coherent)
    (hu : m.registry.definition? h = some u) : ¬ m.IsExpanded u :=
  fun he => he.arguments (hr.writtenArguments_definition hu)

/-- No rule that is followed for the name looks at arguments, or there are none. -/
def IgnoresArguments (m : Mapper) (h : Handle) : Prop :=
  standardSpelling? (m.registry.canonicalName h) ≠ none ∨ m.override? h = none ∨
    (∃ o, m.override? h = some o ∧ o.rule.usesArguments = false) ∨
    m.registry.writtenArguments h = []

theorem outline_definition (hr : m.registry.Coherent) (hn : m.IsNamed h)
    (hu : m.registry.definition? h = some u) (he : ¬ m.IsExpanded h) (hi : m.IgnoresArguments h) :
    m.outline u = m.outline h := by
  have hcanonical := hr.canonicalName_definition hu
  have hoverride : m.override? u = m.override? h := by rw [override?, override?, hcanonical]
  rw [outline_of_isNamed hn, outline_of_isNamed (isNamed_definition hr hn hu), namedOutline,
    namedOutline, expansion?_eq_none_iff.2 he,
    expansion?_eq_none_iff.2 (not_isExpanded_definition hr hu), hcanonical, hoverride,
    hr.declaredName_definition hu, hr.writtenArguments_definition hu]
  cases hs : standardSpelling? (m.registry.canonicalName h) with
  | some s => rfl
  | none =>
    cases ho : m.override? h with
    | none => rfl
    | some o =>
      have harguments : (if o.rule.usesArguments then m.registry.writtenArguments h else []) = [] := by
        rcases hi with hstandard | hnone | ⟨o', ho', huses⟩ | hnil
        · exact absurd hs hstandard
        · cases ho.symm.trans hnone
        · obtain rfl := Option.some.inj (ho.symm.trans ho')
          rw [if_neg (by simp [huses])]
        · rw [hnil, ite_self]
      simp only [harguments, ite_self]

/-- Bound and unbound types of one family, in whatever is built without raw descriptors and for every
mapper. They have the same declared name. A bound type that has arguments, which are not to be left out,
is written as its definition with the arguments in angle brackets; the fallback is written for those of
them that are inferred. Any other is written just as its definition, unless it is replaced by a rule that
looks at arguments and there are some. -/
theorem map_family {declared : Declared Handle} (hr : m.registry.Built)
    (hd : m.registry.form? h = some (.named declared)) (hu : m.registry.definition? h = some u)
    (ha : m.Admits h) :
    let r := m.registry
    let expanded := r.writtenArguments h ≠ [] ∧
      ∀ o, m.overrides.lookup (r.canonicalName h) = some o → o.skipsArguments = false
    r.declaredName h = r.declaredName u ∧
    ∃ s s', Memo.fresh (m.map h).run = .ok s ∧ Memo.fresh (m.map u).run = .ok s' ∧
      (expanded → ∃ head texts, m.Writes u head ∧ List.Forall₂ m.Writes (r.writtenArguments h) texts ∧
        s = .written (head ++ "<" ++ ", ".intercalate texts ++ ">")) ∧
      (¬ expanded → m.IgnoresArguments h → s = s') := by
  intro r expanded
  have hcoh := hr.coherent
  have hwf := hcoh.toWellFormed
  have hn : m.IsNamed h := .inr ⟨declared, hd⟩
  have hexpanded : m.IsExpanded h ↔ expanded := isExpanded_iff hcoh hu
  have hau : m.Admits u := ha.of_refers hwf (Registry.refers_of_definition? hu)
  refine ⟨(hcoh.declaredName_definition hu).symm, m.spelling h, m.spelling u, fresh_map hwf ha,
    fresh_map hwf hau, fun he => ?_, fun he hi => ?_⟩
  · have he := hexpanded.2 he
    exact ⟨_, _, writes_of_admits hwf hau,
      forall₂_writes hwf fun c hc => (DependsOn.argument hn he hc).admits hwf ha,
      spelling_of_isExpanded hwf hn he hu⟩
  · rw [spelling_eq hwf h, spelling_eq hwf u, spellingFrom, spellingFrom,
      outline_definition hcoh hn hu (fun h => he (hexpanded.1 h)) hi]

/-- The keys and the values of a map from strings to untyped arrays, which are written with an argument of
the map. A template may leave it out. -/
theorem map_family_views :
    let m : Mapper := { registry := .ofConstructions [.builtin .array, .builtin .string,
      .generic "Lib" "Map" 2 false, .instantiate 2 [1, 0], .nested 3 "KeyCollection" 0 true,
      .nested 3 "ValueCollection" 0 true] }
    let keys : Override := ⟨"Lib.Map<,>.KeyCollection", .template ⟨[.nameLower]⟩, true⟩
    let lowered : Mapper := { m with overrides := ⟨Overrides.empty.byName.insert keys.typeName keys⟩ }
    m.registry.declaredName 5 = m.registry.declaredName 4 ∧
      Memo.fresh (m.map 5).run = .ok (.written "lib.Map_KeyCollection<String>") ∧
      Memo.fresh (m.map 7).run = .ok (.written "lib.Map_ValueCollection<Dynamic>") ∧
      Memo.fresh (lowered.map 5).run = Memo.fresh (lowered.map 4).run ∧
      Memo.fresh (lowered.map 4).run = .ok (.written "map_keycollection") := by
  intro m keys lowered
  have hr : m.registry.Built := ⟨_, by decide, rfl⟩
  have hd₅ : m.registry.form? 5 = some (.named
      { namespaceName := "Lib", name := "KeyCollection", outer := some 3, definition := some 4 }) := by
    decide +kernel
  have hd₇ : m.registry.form? 7 = some (.named
      { namespaceName := "Lib", name := "ValueCollection", outer := some 3, definition := some 6 }) := by
    decide +kernel
  have hu₅ : m.registry.definition? 5 = some 4 := by decide +kernel
  have hu₇ : m.registry.definition? 7 = some 6 := by decide +kernel
  have hargs₅ : m.registry.writtenArguments 5 = [1] := by decide +kernel
  have hargs₇ : m.registry.writtenArguments 7 = [0] := by decide +kernel
  have ha₅ : m.Admits 5 := ⟨2, by decide +kernel, by decide⟩
  have ha₇ : m.Admits 7 := ⟨2, by decide +kernel, by decide⟩
  obtain ⟨hname, s₅, -, hs₅, -, hexpanded₅, -⟩ := map_family hr hd₅ hu₅ ha₅
  obtain ⟨-, s₇, -, hs₇, -, hexpanded₇, -⟩ := map_family hr hd₇ hu₇ ha₇
  obtain ⟨-, s, s', hs, hs', -, hplain⟩ := map_family (m := lowered) hr hd₅ hu₅ ha₅
  refine ⟨hname, ?_, ?_, ?_, by decide +kernel⟩
  · obtain ⟨head, texts, hhead, htexts, rfl⟩ := hexpanded₅
      ⟨by rw [hargs₅]; exact List.cons_ne_nil _ _, fun o ho => by cases ho⟩
    rw [hargs₅] at htexts
    obtain rfl : head = "lib.Map_KeyCollection" := hhead.unique (.inl (by decide +kernel))
    obtain rfl : texts = ["String"] :=
      forall₂_writesOver_unique htexts (.cons (.inl (by decide +kernel)) .nil)
    exact hs₅
  · obtain ⟨head, texts, hhead, htexts, rfl⟩ := hexpanded₇
      ⟨by rw [hargs₇]; exact List.cons_ne_nil _ _, fun o ho => by cases ho⟩
    rw [hargs₇] at htexts
    obtain rfl : head = "lib.Map_ValueCollection" := hhead.unique (.inl (by decide +kernel))
    obtain rfl : texts = ["Dynamic"] :=
      forall₂_writesOver_unique htexts (.cons (.inr ⟨by decide +kernel, rfl⟩) .nil)
    exact hs₇
  · have hentry : lowered.override? 5 = some keys := by decide +kernel
    have hskips : ¬ ∀ o, lowered.override? 5 = some o → o.skipsArguments = false :=
      fun hkept => absurd (hkept keys hentry) (by decide)
    have hsame := hplain (fun he => hskips he.2) (.inr (.inr (.inl ⟨keys, hentry, by decide⟩)))
    rw [hs, hs', hsame]

end Mapper
end TypeBridge
