import TypeBridge.Proofs.DepthLimit
import TypeBridge.Proofs.WrittenArguments

/-!
# Values that have to be copied by hand

A value type needs promotion unless it is spelled with one of four words of the target. The decision is made
on the text, and the mapper puts texts together from many pieces; but each time it does, it leaves a
bracket, a dot or a low line, and the four words are letters only. So a type that no rule knows is spelled
with one of the four in one way alone, which is to be declared under that very name with nothing around it
(`isNativeValue_spelling_iff`).
-/

namespace TypeBridge

namespace Target

theorem isNativeValue_iff {text : String} :
    isNativeValue text = true ↔ text ∈ ["Int", "Float", "Bool", "String"] := by
  simp [isNativeValue, int, float, bool, string, or_assoc]

theorem isNativeValue_of_mem {text : String} {c : Char} (hc : c ∈ text.toList)
    (hletter : c.isAlpha = false) : isNativeValue text = false := by
  have hletters : ∀ text ∈ ["Int", "Float", "Bool", "String"], ∀ c ∈ text.toList,
      c.isAlpha = true := by
    decide
  refine Bool.eq_false_iff.2 fun hnative => ?_
  cases hletter.symm.trans (hletters text (isNativeValue_iff.1 hnative) c hc)

theorem isNativeValue_applied (head : String) (arguments : List String) :
    isNativeValue (applied head arguments) = false :=
  isNativeValue_of_mem (c := '<') (by simp [applied]) rfl

theorem isNativeValue_optional (inner : String) : isNativeValue (optional inner) = false := by
  unfold optional optionalPrimitive?
  split_ifs
  · exact isNativeValue_of_mem (c := '_') (by simp) rfl
  · exact isNativeValue_of_mem (c := '<') (by simp) rfl

end Target

theorem mem_defaultName {namespaceName name : String} {c : Char} (hc : c ∈ name.toList) :
    c ∈ (defaultName namespaceName name).toList := by
  unfold defaultName
  split_ifs
  · exact hc
  · rw [String.toList_append]
    exact List.mem_append_right _ hc

theorem isNativeValue_defaultName {namespaceName name : String} (hns : namespaceName ≠ "") :
    Target.isNativeValue (defaultName namespaceName name) = false := by
  rw [defaultName, if_neg (by rwa [String.isEmpty_iff])]
  exact Target.isNativeValue_of_mem (c := '.') (by simp) rfl

namespace Registry.Coherent
variable {r : Registry} {h : Handle} {d : Declared Handle}

/-- The name with which a declared type is written by default is that of a native value only when nothing
stands around it. -/
theorem isNativeValue_defaultName_iff (hr : r.Coherent) (hd : r.declared? h = some d) :
    Target.isNativeValue (defaultName (r.declaredName h).2 (r.declaredName h).1) = true ↔
      d.outer = none ∧ d.namespaceName = "" ∧ d.name ∈ ["Int", "Float", "Bool", "String"] := by
  have hwf := hr.toWellFormed
  rw [declaredName_of_declared? hd, flatName?_of_declared? hwf hd, Option.getD_some]
  cases ho : d.outer with
  | none =>
    by_cases hns : d.namespaceName = ""
    · simp [hns, defaultName, Target.isNativeValue_iff]
    · simp [hns, isNativeValue_defaultName hns]
  | some o =>
    obtain ⟨t, -, hcoh⟩ := hr.of_declared? hd
    obtain ⟨around, hf, -⟩ := hcoh.outer o ho
    -- the name of the type around is there, and a low line after it
    have hlow : ∀ outer, Target.isNativeValue (defaultName d.namespaceName (outer ++ "_" ++ d.name)) =
        false :=
      fun outer => Target.isNativeValue_of_mem (c := '_') (mem_defaultName (by simp)) rfl
    simp [flatName?_of_declared? hwf (declared?_of_named hf), hlow]

end Registry.Coherent

def Spelling.isNativeValue (s : Spelling) : Bool :=
  s.text?.any Target.isNativeValue

namespace Mapper
variable {m : Mapper} {h c : Handle} {d : Declared Handle} {depth : Nat}

theorem isNativeValue_spelling_of_enumeration (hr : m.registry.WellFormed)
    (hf : m.registry.form? h = some (.enumeration d)) :
    (m.spelling h).isNativeValue = true := by
  obtain ⟨t, ht, hform⟩ := Registry.form?_eq_some hf
  have ho : m.outline h = .fixed (.written Target.int) := by simp only [outline, ht, hform]
  rw [spelling_eq hr, spellingFrom, ho]
  rfl

theorem isNativeValue_spelling_of_nullable (hr : m.registry.WellFormed)
    (hf : m.registry.form? h = some (.nullable c)) :
    (m.spelling h).isNativeValue = false := by
  rw [spelling_of_nullable hr hf]
  exact Target.isNativeValue_optional _

theorem isExpanded_iff_of_top (hr : m.registry.Coherent) (hd : m.registry.declared? h = some d)
    (houter : d.outer = none) (ho : m.override? h = none) : m.IsExpanded h ↔ d.arguments ≠ [] := by
  have hargs : m.registry.writtenArguments h = d.arguments :=
    Registry.writtenArguments_of_not_shows hd (Registry.not_shows_of_top houter)
  refine ⟨fun he => hargs ▸ he.arguments, fun hne => ?_⟩
  obtain ⟨t, -, hcoh⟩ := hr.of_declared? hd
  obtain ⟨-, hbound⟩ := hcoh.arguments hne
  obtain ⟨u, hu⟩ := Option.isSome_iff_exists.1 hbound
  exact (isExpanded_iff hr ((Registry.definition?_of_declared? hd).trans hu)).2
    ⟨hargs ▸ hne, fun o ho' => by cases ho.symm.trans ho'⟩

/-- A named type that no rule knows is spelled with a native value just when it is declared under that name,
with nothing around it and nothing bound in it. -/
theorem isNativeValue_spelling_iff (hr : m.registry.Coherent)
    (hf : m.registry.form? h = some (.named d))
    (hs : standardSpelling? (m.registry.canonicalName h) = none) (ho : m.override? h = none) :
    (m.spelling h).isNativeValue = true ↔ d.outer = none ∧ d.namespaceName = "" ∧
      d.arguments = [] ∧ d.name ∈ ["Int", "Float", "Bool", "String"] := by
  have hwf := hr.toWellFormed
  have hn : m.IsNamed h := .inr ⟨d, hf⟩
  have hd := Registry.declared?_of_named hf
  by_cases he : m.IsExpanded h
  · obtain ⟨u, hu⟩ := he.bound
    have hbrackets : (m.spelling h).isNativeValue = false := by
      rw [spelling_of_isExpanded hwf hn he hu]
      exact Target.isNativeValue_applied ..
    rw [hbrackets]
    refine ⟨nofun, fun ⟨houter, _, hargs, _⟩ => ?_⟩
    exact absurd hargs ((isExpanded_iff_of_top hr hd houter ho).1 he)
  · rw [spelling_of_unknown hwf hn he hs ho]
    refine (hr.isNativeValue_defaultName_iff hd).trans
      ⟨fun ⟨houter, hns, hname⟩ => ⟨houter, hns, ?_, hname⟩,
        fun ⟨houter, hns, _, hname⟩ => ⟨houter, hns, hname⟩⟩
    by_contra hne
    exact he ((isExpanded_iff_of_top hr hd houter ho).2 hne)

/-! ### The call -/

theorem needsPromotion_of_reference (hh : h < m.registry.size) (hv : m.registry.isValue h = false) :
    m.needsPromotion h = pure false := by
  obtain ⟨t, ht⟩ := Registry.exists_get?_of_lt hh
  rw [Registry.isValue, ht, Option.any_some] at hv
  simp only [needsPromotion, Registry.find, ht, hv]
  rfl

theorem needsPromotion_of_value (hv : m.registry.isValue h = true) :
    m.needsPromotion h = (fun s => !s.isNativeValue) <$> m.map h := by
  obtain ⟨t, ht, hv⟩ := (Option.any_eq_true _ _).1 hv
  simp only [needsPromotion, Registry.find, ht, hv]
  rfl

theorem fresh_needsPromotion (hr : m.registry.WellFormed) (hv : m.registry.isValue h = true)
    (ha : m.Admits h) :
    Memo.fresh (m.needsPromotion h).run = .ok (!(m.spelling h).isNativeValue) := by
  rw [needsPromotion_of_value hv, ExceptT.run_map]
  exact congrArg (Except.map _) (fresh_map hr ha)

/-- Promotion in whatever is built without raw descriptors, for every mapper. A call fails just for value
types that nest too deeply. For other types nothing is looked up, however deeply they nest, and there is
no promotion. Among the value types, enumerations are never promoted and optional values always are. A named
type that is neither standard nor overridden is promoted unless it is declared in the global namespace, with
nothing around it and nothing bound, under the name of a native value. -/
theorem needsPromotion_exact (hr : m.registry.Built) (hh : h < m.registry.size) :
    let r := m.registry
    ∃ depth, r.depth? h = some depth ∧
      (∀ memo : Memo, (∃ e, ((m.needsPromotion h).run.run memo).1 = .error e) ↔
        r.isValue h = true ∧ m.maxDepth < depth) ∧
      (r.isValue h = false → ∀ memo : Memo, (m.needsPromotion h).run.run memo = (.ok false, memo)) ∧
      (r.isValue h = true → depth ≤ m.maxDepth →
        (∀ d, r.form? h = some (.enumeration d) → Memo.fresh (m.needsPromotion h).run = .ok false) ∧
        (∀ c, r.form? h = some (.nullable c) → Memo.fresh (m.needsPromotion h).run = .ok true) ∧
        ∀ d, r.form? h = some (.named d) → standardSpelling? (r.canonicalName h) = none →
          m.overrides.lookup (r.canonicalName h) = none →
          ∃ promoted, Memo.fresh (m.needsPromotion h).run = .ok promoted ∧
            (promoted = false ↔ d.outer = none ∧ d.namespaceName = "" ∧ d.arguments = [] ∧
              d.name ∈ ["Int", "Float", "Bool", "String"])) := by
  intro r
  have hcoh := hr.coherent
  have hwf := hcoh.toWellFormed
  obtain ⟨depth, hdepth⟩ := hwf.exists_depth?_of_lt hh
  refine ⟨depth, hdepth, fun memo => ?_, fun hv memo => ?_, fun hv hle => ?_⟩
  · cases hv : r.isValue h with
    | false =>
      rw [needsPromotion_of_reference hh hv]
      exact ⟨fun ⟨e, he⟩ => (by cases he), fun ⟨hvalue, _⟩ => (by cases hvalue)⟩
    | true =>
      rw [needsPromotion_of_value hv]
      by_cases hlt : m.maxDepth < depth
      · rw [map_of_lt hdepth hlt]
        exact ⟨fun _ => ⟨rfl, hlt⟩, fun _ => ⟨_, rfl⟩⟩
      · rw [map_of_admits ⟨depth, hdepth, Nat.le_of_not_lt hlt⟩]
        exact ⟨fun ⟨e, he⟩ => (by cases he), fun h => absurd h.2 hlt⟩
  · rw [needsPromotion_of_reference hh hv]
    rfl
  · have hfresh := fresh_needsPromotion hwf hv ⟨depth, hdepth, hle⟩
    refine ⟨fun d hf => ?_, fun c hf => ?_, fun d hf hs ho => ⟨_, hfresh, ?_⟩⟩
    · rw [hfresh, isNativeValue_spelling_of_enumeration hwf hf]
      rfl
    · rw [hfresh, isNativeValue_spelling_of_nullable hwf hf]
      rfl
    · rw [Bool.not_eq_false', isNativeValue_spelling_iff hcoh hf hs ho]

/-- A value type that is declared under the name of a native value, the optional values of it, and arrays of
these, which nest too deeply for the mapper. -/
theorem needsPromotion_exact_homonym :
    let m : Mapper :=
      { registry := .ofConstructions [.named "" "Bool" true, .nullable 0, .array 1], maxDepth := 1 }
    Memo.fresh (m.needsPromotion 0).run = .ok false ∧
      Memo.fresh (m.needsPromotion 1).run = .ok true ∧
      ∀ memo : Memo, (m.needsPromotion 2).run.run memo = (.ok false, memo) := by
  intro m
  have hr : m.registry.Built := ⟨_, by decide, rfl⟩
  have hdepth₀ : m.registry.depth? 0 = some 0 := by decide +kernel
  have hdepth₁ : m.registry.depth? 1 = some 1 := by decide +kernel
  have hform₀ : m.registry.form? 0 = some (.named { namespaceName := "", name := "Bool" }) := by
    decide +kernel
  have hform₁ : m.registry.form? 1 = some (.nullable 0) := by decide +kernel
  obtain ⟨d, hd, -, -, hvalue⟩ := needsPromotion_exact (h := 0) hr (by decide +kernel)
  obtain rfl : 0 = d := Option.some.inj (hdepth₀.symm.trans hd)
  obtain ⟨-, -, hnamed⟩ := hvalue (by decide +kernel) (by decide)
  obtain ⟨promoted, hpromoted, hiff⟩ := hnamed _ hform₀ (by decide +kernel) rfl
  obtain rfl := hiff.2 ⟨rfl, rfl, rfl, by decide⟩
  obtain ⟨d, hd, -, -, hvalue⟩ := needsPromotion_exact (h := 1) hr (by decide +kernel)
  obtain rfl : 1 = d := Option.some.inj (hdepth₁.symm.trans hd)
  obtain ⟨-, hoptional, -⟩ := hvalue (by decide +kernel) (by decide)
  obtain ⟨_, -, -, hreference, -⟩ := needsPromotion_exact (h := 2) hr (by decide +kernel)
  exact ⟨hpromoted, hoptional 0 hform₁, hreference (by decide +kernel)⟩

end Mapper
end TypeBridge
