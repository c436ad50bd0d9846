import TypeBridge.Proofs.Family

/-!
# The arguments that a type is written with

A bound type is written with its own arguments. The keys and the values of a bound map have none; they
are written with an argument of the map. Which types are such views is told by their names, so the rule
also takes in a type of that name with parameters of its own (`key_view_loses_own_arguments`). `Shows`
says when the rule applies, and `writtenArguments_exact` what is written in either case.
-/

namespace TypeBridge.Registry

variable {r : Registry} {h a : Handle} {d : Declared Handle}

/-- The declared type has the name of a view, and `a` is the argument of the type around it that a view
of this name shows. -/
def Shows (r : Registry) (d : Declared Handle) (a : Handle) : Prop :=
  ∃ o position, d.outer = some o ∧ (d.name, position) ∈ views ∧
    (r.arguments o)[position]? = some a

theorem lookup_views_eq_some_iff {name : String} {position : Nat} :
    views.lookup name = some position ↔ (name, position) ∈ views := by
  simp only [views, List.lookup_cons, List.lookup_nil]
  grind

theorem borrowed?_eq_some_iff : r.borrowed? d = some a ↔ r.Shows d a := by
  simp only [borrowed?, Option.bind_eq_bind, Option.bind_eq_some_iff, lookup_views_eq_some_iff, Shows,
    exists_and_left]

theorem writtenArguments_of_declared? (hd : r.declared? h = some d) :
    r.writtenArguments h = (r.borrowed? d).elim d.arguments ([·]) := by
  have hread : (r.get? h).bind (·.form.declared?) = some d := hd
  rw [writtenArguments, hread, Option.bind_some, arguments_of_declared? hd]
  cases r.borrowed? d <;> rfl

theorem writtenArguments_of_shows (hd : r.declared? h = some d) (ha : r.Shows d a) :
    r.writtenArguments h = [a] := by
  rw [writtenArguments_of_declared? hd, borrowed?_eq_some_iff.2 ha, Option.elim_some]

theorem writtenArguments_of_not_shows (hd : r.declared? h = some d) (hn : ∀ a, ¬ r.Shows d a) :
    r.writtenArguments h = d.arguments := by
  have hb : r.borrowed? d = none :=
    Option.eq_none_iff_forall_ne_some.2 fun a ha => hn a (borrowed?_eq_some_iff.1 ha)
  rw [writtenArguments_of_declared? hd, hb, Option.elim_none]

theorem not_shows_of_top (ho : d.outer = none) (a : Handle) : ¬ r.Shows d a := by
  rintro ⟨o, position, ho', -, -⟩
  cases ho.symm.trans ho'

/-- A declared type is written with the argument that it shows of the type around it, if it shows one, and
with its own arguments otherwise, all of them and in order. So its own arguments are kept unless it has the
name of a view and shows something else. -/
theorem writtenArguments_exact (hd : r.declared? h = some d) :
    (∀ a, r.Shows d a → r.writtenArguments h = [a]) ∧
    ((∀ a, ¬ r.Shows d a) → r.writtenArguments h = d.arguments) ∧
    (r.writtenArguments h = d.arguments ↔ ∀ a, r.Shows d a → d.arguments = [a]) := by
  refine ⟨fun a ha => writtenArguments_of_shows hd ha, writtenArguments_of_not_shows hd,
    fun hown a ha => ?_, fun hown => ?_⟩
  · rw [← hown, writtenArguments_of_shows hd ha]
  · by_cases hs : ∃ a, r.Shows d a
    · obtain ⟨a, ha⟩ := hs
      rw [writtenArguments_of_shows hd ha, hown a ha]
    · exact writtenArguments_of_not_shows hd (not_exists.1 hs)

/-- The keys of a bound map, and a type of that name with a parameter that is bound too. -/
theorem writtenArguments_exact_keys :
    let r := ofConstructions [.builtin .string, .builtin .int32, .generic "Lib" "Map" 2 false,
      .instantiate 2 [0, 1], .nested 3 "KeyCollection" 0 false, .nested 3 "KeyCollection" 1 false,
      .instantiate 7 [1]]
    r.arguments 5 = [] ∧ r.writtenArguments 5 = [0] ∧ r.arguments 8 = [1] ∧
      r.writtenArguments 8 = [0] := by
  intro r
  have hkeys : r.declared? 5 = some
      { namespaceName := "Lib", name := "KeyCollection", outer := some 3, definition := some 4 } := by
    decide +kernel
  have hbound : r.declared? 8 = some
      { namespaceName := "Lib", name := "KeyCollection", outer := some 3, arity := 1, arguments := [1],
        definition := some 6 } := by
    decide +kernel
  have harguments : (r.arguments 3)[0]? = some 0 := by decide +kernel
  obtain ⟨hshown, -, -⟩ := writtenArguments_exact hkeys
  obtain ⟨hshown', -, -⟩ := writtenArguments_exact hbound
  refine ⟨by decide +kernel, hshown 0 ⟨3, 0, rfl, by decide, harguments⟩, by decide +kernel,
    hshown' 0 ⟨3, 0, rfl, by decide, harguments⟩⟩

/-- Not every bound type is written with its own arguments. -/
theorem key_view_loses_own_arguments :
    ¬ ∀ r : Registry, r.Built → ∀ h d, r.form? h = some (.named d) → d.arguments ≠ [] →
      r.writtenArguments h = d.arguments := by
  intro hall
  let r := ofConstructions [.builtin .string, .builtin .int32, .builtin .boolean,
    .generic "App" "Map" 2 false, .instantiate 3 [0, 1], .nested 4 "KeyCollection" 1 false,
    .instantiate 6 [2]]
  have hr : r.Built := ⟨_, by decide, rfl⟩
  have hf : r.form? 7 = some (.named
      { namespaceName := "App", name := "KeyCollection", outer := some 4, arity := 1, arguments := [2],
        definition := some 5 }) := by
    decide +kernel
  have hown : r.writtenArguments 7 = [2] := hall r hr 7 _ hf (List.cons_ne_nil _ _)
  have hshown : r.writtenArguments 7 = [0] := by decide +kernel
  cases hown.symm.trans hshown

end TypeBridge.Registry
