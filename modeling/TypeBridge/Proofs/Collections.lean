import TypeBridge.Proofs.WrittenArguments

/-!
# Standard collections are arrays

The standard collections of one type of elements, and the keys and the values of a standard map, are
written as arrays. Much has to meet for that. A view inside a bound map comes with a view inside the map's
definition, whether that is there already or not; both have just the name that the table of fixed spellings
has for them; the elements are those of the collection, or the argument of the map in the view's place; and
what stands before them is the spelling of the definition, which is not written with arguments itself.

`Mapper.isArrayOf_of_bound` puts the rules together for one type. `collections_are_arrays` is about the
calls that lead to it, made one after the other with any other constructions before, between and after
them.
-/

namespace TypeBridge

def collectionsNamespace : String := "System.Collections.Generic"

/-- The standard collections of one type of elements. -/
def sequenceNames : List String :=
  ["List", "IList", "Queue", "Stack", "IEnumerable", "ICollection"]

namespace Mapper
variable {m : Mapper} {h u c : Handle}

/-- The type is written as the array of another, whatever that is written as. -/
def IsArrayOf (m : Mapper) (h c : Handle) : Prop :=
  ∃ text, m.Writes c text ∧ Memo.fresh (m.map h).run = .ok (.written ("Array<" ++ text ++ ">"))

/-- A bound type with one argument, when its family is written as an array. -/
theorem isArrayOf_of_bound (hr : m.registry.Coherent) (hn : m.IsNamed h)
    (hu : m.registry.definition? h = some u)
    (hs : standardSpelling? (m.registry.canonicalName h) = some (.written Target.array))
    (ho : m.overrides.lookup (m.registry.canonicalName h) = none)
    (hargs : m.registry.writtenArguments h = [c]) (ha : m.Admits h) : m.IsArrayOf h c := by
  have hwf := hr.toWellFormed
  have he : m.IsExpanded h := (isExpanded_iff hr hu).2
    ⟨by rw [hargs]; exact List.cons_ne_nil _ _, fun o ho' => by cases ho.symm.trans ho'⟩
  have hhead : m.spelling u = .written Target.array :=
    spelling_of_standardSpelling? hwf (isNamed_definition hr hn hu) (not_isExpanded_definition hr hu)
      (by rw [hr.canonicalName_definition hu, hs])
  have hc : m.Admits c := (DependsOn.argument hn he (by simp [hargs])).admits hwf ha
  refine ⟨_, writes_of_admits hwf hc, ?_⟩
  rw [fresh_map hwf ha, spelling_of_isExpanded hwf hn he hu, hhead, hargs, Target.applied,
    List.map_singleton, String.intercalate_singleton]
  rfl

end Mapper

namespace Registry

variable {r r' : Registry} {h o c : Handle} {isValue : Bool}

/-- What later constructions make of a registry, none of them raw. -/
structure Later (r r' : Registry) : Prop where
  extended : r.Extends r'
  built : r'.Built

theorem later_take {cs : List Construction} {n k : Nat} (hraw : ∀ c ∈ cs, c.isRaw = false) (hn : n ≤ k) :
    (ofConstructions (cs.take n)).Later (ofConstructions (cs.take k)) := by
  obtain ⟨later, hlater⟩ := List.take_prefix_take_left hn
  refine ⟨?_, cs.take k, fun c hc => hraw c (List.mem_of_mem_take hc), rfl⟩
  rw [← hlater, ofConstructions_append]
  exact (afterAll_grows (Reachable.wellFormed ⟨cs.take n, rfl⟩) later).1

/-- The declaration of a type with no type around it, bound to arguments. -/
def boundTop (namespaceName name : String) (definition : Handle) (arguments : List Handle) :
    Declared Handle :=
  { namespaceName, name, arity := arguments.length, arguments, definition := some definition }

variable {namespaceName name : String} {definition : Handle} {arguments : List Handle}

theorem Coherent.adds_boundTop (hr : r.Coherent) (arguments : List Handle)
    (ht : r.get? definition =
      some ⟨.named { namespaceName, name, arity := arguments.length }, isValue⟩)
    (hne : arguments ≠ []) (hns : namespaceName ≠ "System") (hargs : ∀ c ∈ arguments, c < r.size) :
    r.Adds (Registry.instantiate definition arguments)
      ⟨.named (boundTop namespaceName name definition arguments), isValue⟩ := by
  have hb : r.bound definition { namespaceName, name, arity := arguments.length } arguments =
      .ok (boundTop namespaceName name definition arguments) :=
    bound_eq_ok_iff.2 ⟨⟨List.length_pos_iff.2 hne, rfl, rfl⟩, rfl⟩
  have hnullable : (boundTop namespaceName name definition arguments).isNullable = false := by
    simp [boundTop, Declared.isNullable, hns]
  rw [← boundDescriptor_of_not_isNullable hnullable]
  exact hr.adds_instantiate ht hb hargs

theorem Coherent.canonicalName_boundTop (hr : r.Coherent)
    (hd : r.declared? h = some (boundTop namespaceName name definition arguments)) :
    r.canonicalName h = scopeOf namespaceName ++ (name ++ arityMarker arguments.length) :=
  hr.canonicalName_of_top hd rfl

end Registry

namespace Mapper
variable {m : Mapper} {h o u c k v : Handle} {name : String} {isValue : Bool}

open Registry

theorem isArrayOf_of_sequence (hr : m.registry.Coherent) (hname : name ∈ sequenceNames)
    (ht : m.registry.get? h = some ⟨.named (boundTop collectionsNamespace name u [c]), isValue⟩)
    (ho : m.overrides.lookup (collectionsNamespace ++ "." ++ name ++ "<>") = none)
    (ha : m.Admits h) : m.IsArrayOf h c := by
  have hd : m.registry.declared? h = some (boundTop collectionsNamespace name u [c]) :=
    declared?_of_get? ht
  have hcanonical : m.registry.canonicalName h = collectionsNamespace ++ "." ++ name ++ "<>" := by
    rw [hr.canonicalName_boundTop hd, ← String.append_assoc]
    rfl
  have hstandard : ∀ name ∈ sequenceNames,
      standardSpelling? (collectionsNamespace ++ "." ++ name ++ "<>") =
        some (.written Target.array) := by
    decide +kernel
  refine isArrayOf_of_bound hr (.inr ⟨_, form?_of_get? ht⟩) (definition?_of_declared? hd)
    (by rw [hcanonical, hstandard name hname]) (by rw [hcanonical, ho])
    (writtenArguments_of_not_shows hd (not_shows_of_top rfl)) ha

theorem isArrayOf_of_view {definition : Option Handle} {mapIsValue : Bool} (hr : m.registry.Coherent)
    (hname : (name, c) ∈ [("KeyCollection", k), ("ValueCollection", v)])
    (hmap : m.registry.get? o =
      some ⟨.named (boundTop collectionsNamespace "Dictionary" u [k, v]), mapIsValue⟩)
    (ht : m.registry.get? h = some
      ⟨.named ((boundTop collectionsNamespace "Dictionary" u [k, v]).inside o name 0 definition),
        isValue⟩)
    (ho : m.overrides.lookup (collectionsNamespace ++ ".Dictionary<,>." ++ name) = none)
    (ha : m.Admits h) : m.IsArrayOf h c := by
  have hdo := declared?_of_get? hmap
  have hd := declared?_of_get? ht
  -- the view is bound because the type around it is
  obtain ⟨w, rfl⟩ : ∃ w, definition = some w := by
    cases definition with
    | none =>
      have hunbound := (hr.declared ht rfl).unbound rfl o rfl
      cases hunbound.symm.trans (definition?_of_declared? hdo)
    | some w => exact ⟨w, rfl⟩
  obtain ⟨position, hposition, hc⟩ :
      ∃ position, (name, position) ∈ views ∧ [k, v][position]? = some c := by
    rcases List.mem_pair.1 hname with heq | heq <;> cases heq
    · exact ⟨0, by decide, rfl⟩
    · exact ⟨1, by decide, rfl⟩
  have hcanonical : m.registry.canonicalName h =
      collectionsNamespace ++ ".Dictionary<,>." ++ name := by
    rw [hr.canonicalName_of_outer hd rfl, hr.canonicalName_boundTop hdo]
    exact congrArg _ (String.append_empty)
  have hstandard : ∀ view ∈ views,
      standardSpelling? (collectionsNamespace ++ ".Dictionary<,>." ++ view.1) =
        some (.written Target.array) := by
    decide +kernel
  refine isArrayOf_of_bound hr (.inr ⟨_, form?_of_get? ht⟩) (definition?_of_declared? hd)
    (by rw [hcanonical, hstandard _ hposition]) (by rw [hcanonical, ho])
    (writtenArguments_of_shows hd ⟨o, position, rfl, hposition, ?_⟩) ha
  rw [arguments_of_declared? hdo]
  exact hc

end Mapper

namespace Registry

/-- The standard collections, constructed in a registry that is built without raw descriptors, among any
other constructions. Every call succeeds. A collection bound to a type of elements is written as an array
of them; in a map bound to keys and values, the view of the keys is written as an array of the keys and the
view of the values as one of the values. That holds whatever else is in the registry, for every mapper
that has no override for the collection and admits it. -/
theorem collections_are_arrays {r : Registry} (hr : r.Built) (isValue : Bool) :
    (∀ name ∈ sequenceNames, ∃ definition r₁,
      (generic collectionsNamespace name 1 isValue).run r = (.ok definition, r₁) ∧
      ∀ r₂, r₁.Later r₂ → ∀ c < r₂.size, ∃ h r₃,
        (instantiate definition [c]).run r₂ = (.ok h, r₃) ∧
        ∀ m : Mapper, r₃.Later m.registry →
          m.overrides.lookup (collectionsNamespace ++ "." ++ name ++ "<>") = none →
          m.Admits h → m.IsArrayOf h c) ∧
    ∃ definition r₁,
      (generic collectionsNamespace "Dictionary" 2 isValue).run r = (.ok definition, r₁) ∧
      ∀ r₂, r₁.Later r₂ → ∀ k < r₂.size, ∀ v < r₂.size, ∃ o r₃,
        (instantiate definition [k, v]).run r₂ = (.ok o, r₃) ∧
        ∀ r₄, r₃.Later r₄ → ∀ view ∈ [("KeyCollection", k), ("ValueCollection", v)],
          ∀ viewIsValue, ∃ h r₅, (nested o view.1 0 viewIsValue).run r₄ = (.ok h, r₅) ∧
            ∀ m : Mapper, r₅.Later m.registry →
              m.overrides.lookup (collectionsNamespace ++ ".Dictionary<,>." ++ view.1) = none →
              m.Admits h → m.IsArrayOf h view.2 := by
  have hns : collectionsNamespace ≠ "System" := by decide
  refine ⟨fun name hname => ?_, ?_⟩
  · obtain ⟨definition, r₁, hrun₁, -, -, ht₁⟩ :=
      hr.coherent.adds_generic collectionsNamespace name 1 isValue
    refine ⟨definition, r₁, hrun₁, fun r₂ h₂ c hc => ?_⟩
    obtain ⟨h, r₃, hrun₃, -, -, ht₃⟩ := h₂.built.coherent.adds_boundTop [c]
      (h₂.extended.get?_of_some ht₁) (List.cons_ne_nil _ _) hns
      fun c' hc' => List.mem_singleton.1 hc' ▸ hc
    exact ⟨h, r₃, hrun₃, fun m hm ho ha => Mapper.isArrayOf_of_sequence hm.built.coherent hname
      (hm.extended.get?_of_some ht₃) ho ha⟩
  · obtain ⟨definition, r₁, hrun₁, -, -, ht₁⟩ :=
      hr.coherent.adds_generic collectionsNamespace "Dictionary" 2 isValue
    refine ⟨definition, r₁, hrun₁, fun r₂ h₂ k hk v hv => ?_⟩
    obtain ⟨o, r₃, hrun₃, -, -, ht₃⟩ := h₂.built.coherent.adds_boundTop [k, v]
      (h₂.extended.get?_of_some ht₁) (List.cons_ne_nil _ _) hns fun c hc => by
        rcases List.mem_pair.1 hc with rfl | rfl
        · exact hk
        · exact hv
    refine ⟨o, r₃, hrun₃, fun r₄ h₄ view hview viewIsValue => ?_⟩
    have hmap₄ := h₄.extended.get?_of_some ht₃
    obtain ⟨w, h, r₅, hrun₅, hx₅, -, ht₅⟩ :=
      h₄.built.coherent.adds_nested (form?_of_get? hmap₄) view.1 0 viewIsValue
    exact ⟨h, r₅, hrun₅, fun m hm ho ha => Mapper.isArrayOf_of_view hm.built.coherent hview
      (hm.extended.get?_of_some (hx₅.get?_of_some hmap₄)) (hm.extended.get?_of_some ht₅) ho ha⟩

/-- The keys and the values of a map from strings to untyped arrays, which stand for nothing that can be
written, and a list of the keys. The unbound views are constructed by nobody. -/
theorem collections_are_arrays_views :
    let m : Mapper := { registry := ofConstructions [.builtin .string, .builtin .array,
      .generic collectionsNamespace "List" 1 false, .generic collectionsNamespace "Dictionary" 2 false,
      .instantiate 3 [0, 1], .nested 4 "KeyCollection" 0 false, .nested 4 "ValueCollection" 0 false,
      .instantiate 2 [6]] }
    (m.IsArrayOf 6 0 ∧ Memo.fresh (m.map 6).run = .ok (.written "Array<String>")) ∧
      (m.IsArrayOf 8 1 ∧ Memo.fresh (m.map 8).run = .ok (.written "Array<Dynamic>")) ∧
      m.IsArrayOf 9 6 ∧ Memo.fresh (m.map 9).run = .ok (.written "Array<Array<String>>") := by
  intro m
  let cs : List Construction := [.builtin .string, .builtin .array,
    .generic collectionsNamespace "List" 1 false, .generic collectionsNamespace "Dictionary" 2 false,
    .instantiate 3 [0, 1], .nested 4 "KeyCollection" 0 false, .nested 4 "ValueCollection" 0 false,
    .instantiate 2 [6]]
  let r (n : Nat) : Registry := ofConstructions (cs.take n)
  have hraw : ∀ c ∈ cs, c.isRaw = false := by decide
  have hlater {n k : Nat} (hn : n ≤ k) : (r n).Later (r k) := later_take hraw hn
  have hlist : (generic collectionsNamespace "List" 1 false).run (r 2) = (.ok 2, r 3) :=
    Prod.ext (by decide +kernel) rfl
  have hmap : (generic collectionsNamespace "Dictionary" 2 false).run (r 3) = (.ok 3, r 4) :=
    Prod.ext (by decide +kernel) rfl
  have hbound : (instantiate 3 [0, 1]).run (r 4) = (.ok 4, r 5) := Prod.ext (by decide +kernel) rfl
  have hkeys : (nested 4 "KeyCollection" 0 false).run (r 5) = (.ok 6, r 6) :=
    Prod.ext (by decide +kernel) rfl
  have hvalues : (nested 4 "ValueCollection" 0 false).run (r 6) = (.ok 8, r 7) :=
    Prod.ext (by decide +kernel) rfl
  have hlisted : (instantiate 2 [6]).run (r 7) = (.ok 9, r 8) := Prod.ext (by decide +kernel) rfl
  have hviews : m.IsArrayOf 6 0 ∧ m.IsArrayOf 8 1 := by
    obtain ⟨-, definition, r₄, hrun, hall⟩ := collections_are_arrays (hlater (Nat.le_refl 3)).built false
    cases hmap.symm.trans hrun
    obtain ⟨o, r₅, hrun, hall⟩ :=
      hall (r 4) (hlater (Nat.le_refl 4)) 0 (by decide +kernel) 1 (by decide +kernel)
    cases hbound.symm.trans hrun
    obtain ⟨h, r₆, hrun, harray⟩ :=
      hall (r 5) (hlater (Nat.le_refl 5)) ("KeyCollection", 0) (by simp) false
    cases hkeys.symm.trans hrun
    obtain ⟨h, r₇, hrun, harray'⟩ :=
      hall (r 6) (hlater (by decide)) ("ValueCollection", 1) (by simp) false
    cases hvalues.symm.trans hrun
    exact ⟨harray m (hlater (k := 8) (by decide)) rfl ⟨2, by decide +kernel, by decide⟩,
      harray' m (hlater (k := 8) (by decide)) rfl ⟨2, by decide +kernel, by decide⟩⟩
  have hsequence : m.IsArrayOf 9 6 := by
    obtain ⟨hall, -⟩ := collections_are_arrays (hlater (Nat.le_refl 2)).built false
    obtain ⟨definition, r₃, hrun, hall⟩ := hall "List" (by decide)
    cases hlist.symm.trans hrun
    obtain ⟨h, r₈, hrun, harray⟩ := hall (r 7) (hlater (by decide)) 6 (by decide +kernel)
    cases hlisted.symm.trans hrun
    exact harray m (hlater (Nat.le_refl 8)) rfl ⟨3, by decide +kernel, by decide⟩
  exact ⟨⟨hviews.1, by decide +kernel⟩, ⟨hviews.2, by decide +kernel⟩, hsequence, by decide +kernel⟩

end Registry
end TypeBridge
