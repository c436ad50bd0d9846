import TypeBridge.Proofs.CanonicalName
import TypeBridge.Proofs.Depth
import TypeBridge.Proofs.PathNames
import TypeBridge.Proofs.UnusedArguments

/-!
# What is left to inference

Nothing is written for the untyped array, and something for every other type: all rules but the fixed table
write a text, and the table leaves out one name (`spelling_eq_inferred_iff`). A generic type never has that
name, however it is called, since the places of its parameters are a part of its canonical name
(`mem_canonicalName_of_isGeneric`). So no bound type is taken for an untyped array, and no untyped array is
written as something generic.

Inside another type there has to be a text. `WrittenWith` says, rule by rule and character by character, how
the spelling of a type is written with texts for the types inside, and `only_untyped_arrays_inferred` which
texts these are.
-/

namespace TypeBridge

/-- The text that a segment of a replacement stands for. -/
inductive Segment.Renders (cx : Context) : Segment → String → Prop
  | literal (text : String) : Renders cx (.literal text) text
  | name : Renders cx .name cx.name
  | nameLower : Renders cx .nameLower (Text.lowercase cx.name)
  | namespaceName : Renders cx .namespaceName cx.namespaceName
  | namespaceLower : Renders cx .namespaceLower (Text.lowercase cx.namespaceName)
  | arguments : Renders cx .arguments (", ".intercalate cx.arguments)
  | argument {index : Nat} {text : String} (ht : cx.arguments[index]? = some text) :
      Renders cx (.argument index) text
  | missing {index : Nat} (hi : cx.arguments.length ≤ index) :
      Renders cx (.argument index) cx.fallback

/-- The text that a rule writes for a type. -/
inductive Rule.Renders (cx : Context) : Rule → String → Prop
  | rename (text : String) : Renders cx (.rename text) text
  | template {t : Template} {pieces : List String}
      (hp : List.Forall₂ (Segment.Renders cx) t.segments pieces) :
      Renders cx (.template t) (String.join pieces)

theorem Segment.renders_iff {cx : Context} {s : Segment} {piece : String} :
    s.Renders cx piece ↔ piece = s.render cx := by
  constructor
  · intro hs
    cases hs with
    | argument ht => rw [render, ht, Option.getD_some]
    | missing hi => rw [render, List.getElem?_eq_none hi, Option.getD_none]
    | _ => rfl
  · rintro rfl
    cases s with
    | argument index =>
      rw [render]
      cases ht : cx.arguments[index]? with
      | some text => exact .argument ht
      | none => exact .missing (List.getElem?_eq_none_iff.1 ht)
    | _ => constructor

theorem Rule.renders_iff {cx : Context} {rule : Rule} {text : String} :
    rule.Renders cx text ↔ text = rule.apply cx := by
  constructor
  · intro ht
    cases ht with
    | rename => rfl
    | @template t pieces hp =>
      refine congrArg String.join ?_
      generalize t.segments = segments at hp ⊢
      induction hp with
      | nil => rfl
      | cons hs _ ih => rw [List.map_cons, Segment.renders_iff.1 hs, ih]
  · rintro rfl
    cases rule with
    | rename text => exact .rename text
    | template t =>
      exact .template (List.forall₂_map_right_iff.2 (List.forall₂_same.2 fun s _ =>
        Segment.renders_iff.2 rfl))

theorem mem_arityMarker {arity : Nat} (ha : 0 < arity) : '<' ∈ (arityMarker arity).toList := by
  rw [arityMarker, if_neg (by omega)]
  simp

namespace Registry.Coherent
variable {r : Registry} {h : Handle} {d : Declared Handle}

/-- The name of a generic type has the places of parameters in it, its own or those of a type around. -/
theorem mem_canonicalName_of_isGeneric (hr : r.Coherent) (hd : r.declared? h = some d)
    (hg : r.isGeneric h = true) : '<' ∈ (r.canonicalName h).toList := by
  induction h using Nat.strongRecOn generalizing d with
  | ind h ih =>
    rw [isGeneric_of_declared? hr.toWellFormed hd, Bool.or_eq_true, decide_eq_true_eq] at hg
    have hown : 0 < d.arity → '<' ∈ d.unboundName.toList := by
      intro harity
      simp [Declared.unboundName, mem_arityMarker harity]
    cases ho : d.outer with
    | none =>
      simp only [ho, Option.any_none, Bool.false_eq_true, or_false] at hg
      simp [hr.canonicalName_of_top hd ho, hown hg]
    | some o =>
      rw [hr.canonicalName_of_outer hd ho]
      rcases hg with harity | hg
      · simp [hown harity]
      · obtain ⟨t, -, hcoh⟩ := hr.of_declared? hd
        obtain ⟨around, hf, -⟩ := hcoh.outer o ho
        rw [ho, Option.any_some] at hg
        simp [ih o (hr.outer_lt hd ho) (declared?_of_named hf) hg]

end Registry.Coherent

theorem Target.optional_eq (text : String) : optional text =
    if text ∈ ["Int", "Float", "Bool"] then "Nullable_" ++ text else "Nullable<" ++ text ++ ">" := by
  have hmem : (text == int || text == float || text == bool) = true ↔ text ∈ ["Int", "Float", "Bool"] := by
    simp [int, float, bool, or_assoc]
  unfold optional optionalPrimitive?
  simp only [hmem]
  split_ifs
  · rfl
  · rfl

namespace Mapper
variable {m : Mapper} {h u : Handle}

/-- The built-in base class of all arrays, and whatever is declared under the same name. -/
def IsUntypedArray (m : Mapper) (h : Handle) : Prop :=
  m.IsNamed h ∧ m.registry.canonicalName h = "System.Array"

theorem IsUntypedArray.not_isExpanded (hr : m.registry.Coherent) (ha : m.IsUntypedArray h) :
    ¬ m.IsExpanded h := by
  intro he
  obtain ⟨u, hu⟩ := he.bound
  obtain ⟨d, hd, -⟩ := Registry.exists_declared?_of_definition? hu
  have hplace := hr.mem_canonicalName_of_isGeneric hd he.generic
  rw [ha.2] at hplace
  exact absurd hplace (by decide)

theorem isUntypedArray_of_spelling (hr : m.registry.WellFormed) (hh : h < m.registry.size) :
    m.spelling h = .inferred → m.IsUntypedArray h := by
  rw [spelling_eq hr, spellingFrom]
  refine outline_cases ?unknown ?named ?bytes ?array ?parameter ?delegate ?enumeration ?record ?nullable
  case unknown =>
    intro hf
    obtain ⟨t, ht⟩ := Registry.exists_get?_of_lt hh
    cases hf.symm.trans (Registry.form?_of_get? ht)
  case named =>
    intro hn
    refine namedOutline_cases ?expanded ?standard ?replaced ?otherwise
    case standard =>
      intro s _ hs hinferred
      rcases standardSpelling?_eq_some hs with ⟨hname, -⟩ | ⟨text, -, rfl⟩
      · exact ⟨hn, hname⟩
      · cases hinferred
    -- the other rules write a text
    case expanded | replaced | otherwise => intros; contradiction
  case bytes | array | parameter | delegate | enumeration | record | nullable =>
    intros
    contradiction

theorem spelling_eq_inferred_iff (hr : m.registry.Coherent) (hh : h < m.registry.size) :
    m.spelling h = .inferred ↔ m.IsUntypedArray h := by
  refine ⟨isUntypedArray_of_spelling hr.toWellFormed hh, fun ha => ?_⟩
  refine spelling_of_standardSpelling? hr.toWellFormed ha.1 (ha.not_isExpanded hr) ?_
  rw [ha.2]
  rfl

/-- The spelling of the type is written with the texts for the types inside it, by whichever rule the type
is written. -/
structure WrittenWith (m : Mapper) (h : Handle) (text : Handle → String) (s : Spelling) : Prop where
  array : ∀ c, m.registry.form? h = some (.array c) → m.registry.form? c ≠ some (.builtin .byte) →
    s = .written ("Array<" ++ text c ++ ">")
  nullable : ∀ c, m.registry.form? h = some (.nullable c) → s = .written
    (if text c ∈ ["Int", "Float", "Bool"] then "Nullable_" ++ text c else "Nullable<" ++ text c ++ ">")
  function : ∀ d params result, m.registry.form? h = some (.delegate d params result) →
    s = .written ("(" ++ " -> ".intercalate
      ((if params = [] then ["Void"] else params.map text) ++ [text result]) ++ ")")
  generic : ∀ u, m.IsNamed h → m.IsExpanded h → m.registry.definition? h = some u →
    s = .written (text u ++ "<" ++ ", ".intercalate ((m.registry.writtenArguments h).map text) ++ ">")
  replaced : ∀ o, m.IsNamed h → ¬ m.IsExpanded h →
    standardSpelling? (m.registry.canonicalName h) = none → m.override? h = some o →
    ∃ replacement, s = .written replacement ∧ o.rule.Renders
      { name := (m.registry.declaredName h).1
        namespaceName := (m.registry.declaredName h).2
        arguments := (m.registry.writtenArguments h).map text
        fallback := m.fallback } replacement

theorem spelling_writtenWith (hr : m.registry.WellFormed) (h : Handle) :
    m.WrittenWith h (fun c => (m.spelling c).textOr m.fallback) (m.spelling h) := by
  refine ⟨fun c hf hb => ?array, fun c hf => ?nullable, fun d params result hf => ?function,
    fun u hn he hu => spelling_of_isExpanded hr hn he hu, fun o hn he hs ho => ?replaced⟩
  case array =>
    rw [spelling_of_array hr hf hb, Target.applied, String.intercalate_singleton]
    rfl
  case nullable =>
    rw [spelling_of_nullable hr hf, Target.optional_eq]
  case function =>
    rw [spelling_of_delegate hr hf, Target.function]
    simp only [List.isEmpty_iff, List.map_eq_nil_iff]
    rfl
  case replaced =>
    refine ⟨_, ?_, Rule.renders_iff.2 rfl⟩
    rw [spelling_of_override hr hn he hs ho]
    -- an argument is left out only where none is looked at
    cases huses : o.rule.usesArguments with
    | true => rfl
    | false => exact congrArg Spelling.written (Rule.apply_congr huses rfl rfl)

/-- Of all that is built without raw descriptors, just the untyped arrays are left to inference, whatever
overrides and fallback there are: named and built-in types of this canonical name, and no others. Inside
another type, as elements, wrapped in an optional, as parameter or result of a function, as an argument
or as the generic type before the arguments, it is for just these that the fallback is written. For every
other type inside there is the text that a call for it gives. -/
theorem only_untyped_arrays_inferred (hr : m.registry.Built) (ha : m.Admits h) :
    (Memo.fresh (m.map h).run = .ok .inferred ↔ m.IsUntypedArray h) ∧
    ∃ (text : Handle → String) (s : Spelling),
      (∀ c, m.DependsOn h c → (m.IsUntypedArray c → text c = m.fallback) ∧
        (¬ m.IsUntypedArray c → Memo.fresh (m.map c).run = .ok (.written (text c)))) ∧
      Memo.fresh (m.map h).run = .ok s ∧ m.WrittenWith h text s := by
  have hcoh := hr.coherent
  have hwf := hcoh.toWellFormed
  rw [fresh_map hwf ha, Except.ok.injEq]
  refine ⟨spelling_eq_inferred_iff hcoh (ha.lt_size hwf), _, _, fun c hc => ?_, rfl,
    spelling_writtenWith hwf h⟩
  have hac := hc.admits hwf ha
  refine ⟨fun harray => ?_, fun harray => ?_⟩
  · rw [(spelling_eq_inferred_iff hcoh (hac.lt_size hwf)).2 harray]
    rfl
  · rw [fresh_map hwf hac]
    cases hs : m.spelling c with
    | written text => rfl
    | inferred => exact absurd ((spelling_eq_inferred_iff hcoh (hac.lt_size hwf)).1 hs) harray

/-- A class that is declared under the name of the untyped array, for which there is an override; and it
inside each type that there can be around it. -/
theorem only_untyped_arrays_inferred_inside :
    let o : Override := ⟨"System.Array", .rename "Seq", false⟩
    let pair : Override := ⟨"Lib.Pair<,>", .template
      ⟨[.literal "Duo<", .argument 1, .literal "; ", .arguments, .literal ">"]⟩, true⟩
    let m : Mapper :=
      { registry := .ofConstructions
          [.named "System" "Array" false, .builtin .int32, .array 0, .nullable 0, .nullable 1,
            .delegate "Lib" "Visit" 0 [0, 1] 0, .generic "Lib" "Box" 1 false, .instantiate 6 [0],
            .generic "Lib" "Pair" 2 false, .instantiate 8 [1, 0]]
        overrides := ⟨(Overrides.empty.byName.insert o.typeName o).insert pair.typeName pair⟩
        fallback := "Any" }
    (m.override? 0 = some o ∧ Memo.fresh (m.map 0).run = .ok .inferred) ∧
      Memo.fresh (m.map 2).run = .ok (.written "Array<Any>") ∧
      Memo.fresh (m.map 3).run = .ok (.written "Nullable<Any>") ∧
      Memo.fresh (m.map 4).run = .ok (.written "Nullable_Int") ∧
      Memo.fresh (m.map 5).run = .ok (.written "(Any -> Int -> Any)") ∧
      Memo.fresh (m.map 7).run = .ok (.written "lib.Box<Any>") ∧
      Memo.fresh (m.map 9).run = .ok (.written "Duo<Any; Int, Any>") := by
  intro o pair m
  have hr : m.registry.Built := ⟨_, by decide, rfl⟩
  have hform : m.registry.form? 0 = some (.named { namespaceName := "System", name := "Array" }) := by
    decide +kernel
  have harray : m.IsUntypedArray 0 := ⟨.inr ⟨_, hform⟩, by decide +kernel⟩
  have hadmits (h : Handle) (hh : h < 10) : m.Admits h := by
    have hdepth : ∀ h < 10, ∃ n ≤ 1, m.registry.depth? h = some n := by decide +kernel
    obtain ⟨n, hle, hn⟩ := hdepth h hh
    exact ⟨n, hn, Nat.le_trans hle (by decide)⟩
  -- the text for a type inside is the fallback for the class, and for every other what it is written as
  have hinside (h : Handle) (hh : h < 10) : ∃ (text : Handle → String) (s : Spelling),
      (m.DependsOn h 0 → text 0 = "Any") ∧
      (∀ c t, m.DependsOn h c → Memo.fresh (m.map c).run = .ok (.written t) → text c = t) ∧
      Memo.fresh (m.map h).run = .ok s ∧ m.WrittenWith h text s := by
    obtain ⟨-, text, s, htext, hs, hwritten⟩ := only_untyped_arrays_inferred hr (hadmits h hh)
    refine ⟨text, s, fun hd => (htext 0 hd).1 harray, fun c t hd ht => ?_, hs, hwritten⟩
    have hac : m.Admits c := hd.admits hr.coherent.toWellFormed (hadmits h hh)
    obtain ⟨hinferred, -⟩ := only_untyped_arrays_inferred hr hac
    have hc : ¬ m.IsUntypedArray c := fun hc => by cases ht.symm.trans (hinferred.2 hc)
    exact Spelling.written.inj (Except.ok.inj (((htext c hd).2 hc).symm.trans ht))
  have hint : Memo.fresh (m.map 1).run = .ok (.written "Int") := by decide +kernel
  refine ⟨⟨by decide +kernel, (only_untyped_arrays_inferred hr (hadmits 0 (by decide))).1.2 harray⟩,
    ?array, ?nullable, ?optional, ?function, ?generic, ?replaced⟩
  case array =>
    have hf : m.registry.form? 2 = some (.array 0) := by decide +kernel
    have hb : m.registry.form? 0 ≠ some (.builtin .byte) := by decide +kernel
    obtain ⟨text, s, hany, -, hs, hwritten⟩ := hinside 2 (by decide)
    rw [hs, hwritten.array 0 hf hb, hany (.element hf hb)]
    rfl
  case nullable =>
    have hf : m.registry.form? 3 = some (.nullable 0) := by decide +kernel
    obtain ⟨text, s, hany, -, hs, hwritten⟩ := hinside 3 (by decide)
    rw [hs, hwritten.nullable 0 hf, hany (.inner hf)]
    rfl
  case optional =>
    have hf : m.registry.form? 4 = some (.nullable 1) := by decide +kernel
    obtain ⟨text, s, -, htext, hs, hwritten⟩ := hinside 4 (by decide)
    rw [hs, hwritten.nullable 1 hf, htext 1 "Int" (.inner hf) hint]
    rfl
  case function =>
    have hf : m.registry.form? 5 =
        some (.delegate { namespaceName := "Lib", name := "Visit" } [0, 1] 0) := by
      decide +kernel
    obtain ⟨text, s, hany, htext, hs, hwritten⟩ := hinside 5 (by decide)
    rw [hs, hwritten.function _ _ _ hf, List.map_cons, List.map_singleton,
      hany (.parameter hf (by decide)), htext 1 "Int" (.parameter hf (by decide)) hint]
    rfl
  case generic =>
    obtain ⟨he, hu, hargs⟩ := expansion?_eq_some_iff.1
      (show m.expansion? 7 = some (6, [0]) by decide +kernel)
    have hn : m.IsNamed 7 := .inr ⟨{ namespaceName := "Lib", name := "Box", arity := 1,
                                     arguments := [0], definition := some 6 }, by decide +kernel⟩
    obtain ⟨text, s, hany, htext, hs, hwritten⟩ := hinside 7 (by decide)
    rw [hs, hwritten.generic 6 hn he hu, hargs, List.map_singleton,
      hany (.argument hn he (by simp [hargs])),
      htext 6 "lib.Box" (.definition hn he hu) (by decide +kernel)]
    rfl
  case replaced =>
    have hn : m.IsNamed 9 := .inr ⟨{ namespaceName := "Lib", name := "Pair", arity := 2,
                                     arguments := [1, 0], definition := some 8 }, by decide +kernel⟩
    have he : ¬ m.IsExpanded 9 := expansion?_eq_none_iff.1 (by decide +kernel)
    have hnone : standardSpelling? (m.registry.canonicalName 9) = none := by decide +kernel
    have ho : m.override? 9 = some pair := by decide +kernel
    have hargs : m.registry.writtenArguments 9 = [1, 0] := by decide +kernel
    have hd : ∀ c ∈ [1, 0], m.DependsOn 9 c := fun c hc =>
      .replacement hn he hnone ho (by decide) (hargs ▸ hc)
    obtain ⟨text, s, hany, htext, hs, hwritten⟩ := hinside 9 (by decide)
    obtain ⟨replacement, rfl, hrenders⟩ := hwritten.replaced pair hn he hnone ho
    rw [hargs, List.map_cons, List.map_singleton, hany (hd 0 (by decide)),
      htext 1 "Int" (hd 1 (by decide)) hint, Rule.renders_iff] at hrenders
    rw [hs, hrenders]
    decide +kernel

end Mapper
end TypeBridge
