import Mathlib.Data.List.Forall2
import Mathlib.Data.Set.List
import TypeBridge.Proofs.Family
import TypeBridge.Proofs.History
import TypeBridge.Proofs.PathNames

/-!
# Spellings are types of the target

A spelling is put together from pieces of text, and nothing in the pieces says that brackets and
separators come out right. They do, because every rule writes one form of `TypeExpr` around the types it
is written with (`Outline.Fits.parses`), and by induction these are types already.

The one place where a piece cannot be just any type is before the arguments of a generic type, where
only a path may stand. What stands there is the spelling of a definition. A definition is bound to
nothing, so it is not written with arguments of its own (`isPlain_of_not_isExpanded`).
-/

namespace TypeBridge

namespace TypeExpr

theorem exists_map_text {texts : List String} (ht : ∀ t ∈ texts, ∃ e : TypeExpr, e.text = t) :
    ∃ es : List TypeExpr, es.map text = texts := by
  have hmem : texts ∈ {l | ∀ t ∈ l, t ∈ Set.range text} := ht
  rwa [← Set.range_list_map] at hmem

theorem exists_applied {head : String} {arguments : List String} (hhead : IsPath head)
    (hne : arguments ≠ []) (ha : ∀ t ∈ arguments, ∃ e : TypeExpr, e.text = t) :
    ∃ p first rest, p.text = head ∧ (first :: rest).map text = arguments ∧
      (applied p first rest).text = Target.applied head arguments := by
  obtain ⟨es, rfl⟩ := exists_map_text ha
  cases es with
  | nil => exact absurd rfl hne
  | cons first rest => exact ⟨⟨head, hhead⟩, first, rest, rfl, rfl, text_applied ..⟩

theorem exists_function {params : List String} {result : String}
    (hparams : ∀ t ∈ params, ∃ e : TypeExpr, e.text = t) (hresult : ∃ e : TypeExpr, e.text = result) :
    ∃ e : TypeExpr, e.text = Target.function params result := by
  have hvoid : ∃ e : TypeExpr, e.text = Target.void :=
    ⟨path ⟨Target.void, by decide⟩, text_path _⟩
  obtain ⟨first, rest, htaken, ht⟩ : ∃ first rest,
      (if params.isEmpty then [Target.void] else params) = first :: rest ∧
        ∀ t ∈ first :: rest ++ [result], ∃ e : TypeExpr, e.text = t := by
    cases params with
    | nil => exact ⟨Target.void, [], rfl, by simp [hvoid, hresult]⟩
    | cons first rest =>
      refine ⟨first, rest, rfl, fun t ht => ?_⟩
      rcases List.mem_append.1 ht with ht | ht
      · exact hparams t ht
      · exact List.mem_singleton.1 ht ▸ hresult
  obtain ⟨es, hes⟩ := exists_map_text ht
  -- there is a parameter, so there are two types at least
  match es, hes with
  | [], hes => cases hes
  | [_], hes => simp at hes
  | e₁ :: e₂ :: es, hes => exact ⟨function e₁ e₂ es, by rw [text_function, hes, Target.function, htaken]⟩

theorem exists_optional {inner : String} (hinner : ∃ e : TypeExpr, e.text = inner) :
    ∃ e : TypeExpr, e.text = Target.optional inner := by
  unfold Target.optional Target.optionalPrimitive?
  split_ifs with hprimitive
  · simp only [Bool.or_eq_true, beq_iff_eq] at hprimitive
    have hpath : IsPath (Target.nullable ++ "_" ++ inner) := by
      rcases hprimitive with (rfl | rfl) | rfl <;> decide
    exact ⟨path ⟨_, hpath⟩, text_path _⟩
  · have hhead : IsPath Target.nullable := by decide
    obtain ⟨p, first, rest, -, -, htext⟩ :=
      exists_applied hhead (List.cons_ne_nil inner []) (by simpa using hinner)
    exact ⟨_, by rw [htext]; simp [Target.applied]⟩

end TypeExpr

/-! ### Rules -/

def Spelling.Parses (s : Spelling) : Prop :=
  ∀ text, s = .written text → ∃ e : TypeExpr, e.text = text

namespace Spelling
variable {s : Spelling} {fallback : String}

theorem parses_written {e : TypeExpr} {text : String} (he : e.text = text) : (written text).Parses :=
  forall_written ⟨e, he⟩

theorem IsPlain.parses (hs : s.IsPlain) : s.Parses :=
  fun text h => ⟨.path ⟨text, hs text h⟩, TypeExpr.text_path _⟩

theorem Parses.textOr (hs : s.Parses) (hf : IsPath fallback) :
    ∃ e : TypeExpr, e.text = s.textOr fallback :=
  textOr_of_forall hs ⟨.path ⟨fallback, hf⟩, TypeExpr.text_path _⟩

end Spelling

namespace Outline
variable {ρ σ : Type}

/-- What the outline writes fits the syntax: the text of its own is a path, and a generic type has
arguments, and a head as it must be. -/
def Fits (IsHead : ρ → Prop) : Outline ρ → Prop
  | fixed s => s.IsPlain
  | applied head arguments => IsHead head ∧ arguments ≠ []
  | replaced rule _ _ _ => ∃ text, rule = .rename text ∧ IsPath text
  | array _ | function _ _ | nullable _ => True

theorem Fits.map {IsHead : σ → Prop} {f : ρ → σ} {o : Outline ρ} (ho : o.Fits fun x => IsHead (f x)) :
    (o.map f).Fits IsHead := by
  cases o with
  | applied head arguments => exact ⟨ho.1, fun hnil => ho.2 (List.map_eq_nil_iff.1 hnil)⟩
  | _ => exact ho

/-- What is written with types, after a path where there are arguments, is a type. -/
theorem Fits.parses {o : Outline String} {fallback : String} (ho : o.Fits IsPath)
    (hholes : ∀ t ∈ o.holes, ∃ e : TypeExpr, e.text = t) : (o.spelling fallback).Parses := by
  cases o with
  | fixed s => exact Spelling.IsPlain.parses ho
  | array element =>
    have hhead : IsPath Target.array := by decide
    obtain ⟨p, first, rest, -, -, htext⟩ :=
      TypeExpr.exists_applied hhead (List.cons_ne_nil element []) hholes
    exact Spelling.parses_written htext
  | function params result =>
    obtain ⟨e, he⟩ := TypeExpr.exists_function (fun t ht => hholes t (List.mem_append_left _ ht))
      (hholes result (by simp [holes]))
    exact Spelling.parses_written he
  | nullable inner =>
    obtain ⟨e, he⟩ := TypeExpr.exists_optional (hholes inner (by simp [holes]))
    exact Spelling.parses_written he
  | applied head arguments =>
    obtain ⟨p, first, rest, -, -, htext⟩ := TypeExpr.exists_applied ho.1 ho.2
      fun t ht => hholes t (List.mem_cons_of_mem _ ht)
    exact Spelling.parses_written htext
  | replaced rule name namespaceName arguments =>
    obtain ⟨text, rfl, htext⟩ := ho
    exact Spelling.IsPlain.parses (Spelling.isPlain_written htext)

end Outline

/-! ### Mappers -/

/-- All overrides give other names, which are paths. -/
def Overrides.RenamesOnly (os : Overrides) : Prop :=
  ∀ name o, os.lookup name = some o → ∃ text, o.rule = .rename text ∧ IsPath text

namespace Mapper

/-- All texts that the mapper does not put together itself are paths. -/
structure Plain (m : Mapper) : Prop where
  coherent : m.registry.Coherent
  names : m.registry.AsciiNames
  overrides : m.overrides.RenamesOnly
  fallback : IsPath m.fallback
  nameRecord : ∀ r h members, m.nameRecord r h members = recordName members

variable {m : Mapper} {h u c : Handle}

namespace Plain
variable (hm : m.Plain)
include hm

theorem isPath_declaredName (hn : m.IsNamed h) :
    IsPath (defaultName (m.registry.declaredName h).2 (m.registry.declaredName h).1) := by
  rcases hn with ⟨b, hf⟩ | ⟨d, hf⟩
  · obtain ⟨hname, hns⟩ := Registry.isIdentifier_declaredName_of_builtin hf
    exact isPath_defaultName hns hname
  · obtain ⟨hname, hns⟩ :=
      hm.coherent.isIdentifier_declaredName hm.names (Registry.declared?_of_named hf)
    exact isPath_defaultName hns hname

theorem outline_of_not_isExpanded (hn : m.IsNamed h) (he : ¬ m.IsExpanded h) :
    (∃ s, m.outline h = .fixed s ∧ s.IsPlain) ∨
    ∃ text name namespaceName,
      m.outline h = .replaced (.rename text) name namespaceName [] ∧ IsPath text := by
  rw [outline_of_isNamed hn]
  refine namedOutline_cases ?expanded ?standard ?replaced ?otherwise
  case expanded => exact fun _ he' _ => absurd he' he
  case standard => exact fun s _ hs => .inl ⟨s, rfl, isPlain_of_standardSpelling? hs⟩
  case replaced =>
    intro o _ _ ho
    obtain ⟨text, hrule, htext⟩ := hm.overrides _ o ho
    refine .inr ⟨text, (m.registry.declaredName h).1, (m.registry.declaredName h).2, ?_, htext⟩
    rw [hrule]
    rfl
  case otherwise =>
    exact fun _ _ _ => .inl ⟨_, rfl, Spelling.isPlain_written (hm.isPath_declaredName hn)⟩

theorem isPlain_of_not_isExpanded (hn : m.IsNamed h) (he : ¬ m.IsExpanded h) :
    (m.spelling h).IsPlain := by
  rw [spelling_eq hm.coherent.toWellFormed, spellingFrom]
  rcases hm.outline_of_not_isExpanded hn he with ⟨s, ho, hs⟩ | ⟨text, _, _, ho, htext⟩
  · rw [ho]
    exact hs
  · rw [ho]
    exact Spelling.isPlain_written htext

theorem isPlain_definition (hn : m.IsNamed h) (hu : m.registry.definition? h = some u) :
    (m.spelling u).IsPlain :=
  hm.isPlain_of_not_isExpanded (isNamed_definition hm.coherent hn hu)
    (not_isExpanded_definition hm.coherent hu)

theorem namedOutline_fits (hn : m.IsNamed h) :
    (m.namedOutline h).Fits fun u => IsPath ((m.spelling u).textOr m.fallback) := by
  rw [← outline_of_isNamed hn]
  by_cases he : m.IsExpanded h
  · obtain ⟨u, hu⟩ := he.bound
    rw [outline_of_isExpanded hn he hu]
    exact ⟨(hm.isPlain_definition hn hu).textOr hm.fallback, he.arguments⟩
  · rcases hm.outline_of_not_isExpanded hn he with ⟨s, ho, hs⟩ | ⟨text, _, _, ho, htext⟩
    · rw [ho]
      exact hs
    · rw [ho]
      exact ⟨text, rfl, htext⟩

theorem outline_fits (h : Handle) :
    (m.outline h).Fits fun u => IsPath ((m.spelling u).textOr m.fallback) := by
  refine outline_cases ?unknown ?named ?bytes ?array ?parameter ?delegate ?enumeration ?record ?nullable
  case unknown => exact fun _ => Spelling.isPlain_inferred
  case named => exact hm.namedOutline_fits
  case bytes => exact fun _ _ _ => Spelling.isPlain_written (by decide)
  case parameter => exact fun name hf => Spelling.isPlain_written (hm.names.parameter h name hf).isPath
  case enumeration => exact fun _ _ => Spelling.isPlain_written (by decide)
  case record =>
    intro members _
    rw [hm.nameRecord]
    exact Spelling.isPlain_written (isIdentifier_recordName members).isPath
  case array | delegate | nullable => intros; trivial

theorem spelling_parses (h : Handle) : (m.spelling h).Parses :=
  spelling_induction hm.coherent.toWellFormed (fun _ hs => hs.textOr hm.fallback)
    (fun h hholes => (hm.outline_fits h).map.parses hholes) h

/-- A type that is written with arguments is a path with the types that these are written as. -/
theorem spelling_of_isExpanded (hn : m.IsNamed h) (he : m.IsExpanded h)
    (hu : m.registry.definition? h = some u) :
    ∃ head first rest, m.spelling h = .written (TypeExpr.applied head first rest).text ∧
      (m.spelling u).textOr m.fallback = head.text ∧
      List.Forall₂ (fun a e => (m.spelling a).textOr m.fallback = TypeExpr.text e)
        (m.registry.writtenArguments h) (first :: rest) := by
  have hhead : IsPath ((m.spelling u).textOr m.fallback) :=
    (hm.isPlain_definition hn hu).textOr hm.fallback
  have hne : (m.registry.writtenArguments h).map (fun a => (m.spelling a).textOr m.fallback) ≠ [] :=
    fun hnil => he.arguments (List.map_eq_nil_iff.1 hnil)
  obtain ⟨head, first, rest, hp, harguments, htext⟩ :=
    TypeExpr.exists_applied hhead hne fun t ht => by
      obtain ⟨a, -, rfl⟩ := List.mem_map.1 ht
      exact (hm.spelling_parses a).textOr hm.fallback
  refine ⟨head, first, rest, ?_, hp.symm, ?_⟩
  · rw [Mapper.spelling_of_isExpanded hm.coherent.toWellFormed hn he hu, htext]
  · have hsame := List.forall₂_eq_eq_eq ▸ harguments.symm
    rwa [List.forall₂_map_left_iff, List.forall₂_map_right_iff] at hsame

end Plain

/-- The type expression is what is written for a type that has to be written. -/
def WrittenAs (m : Mapper) (h : Handle) (e : TypeExpr) : Prop :=
  m.Writes h e.text

end Mapper

/-- Let all names be ASCII, in whatever is built without raw descriptors, and let overrides and the
fallback be paths. Then every call that is not refused finds a type of the target, which can be read in
one way, or leaves the type to be inferred. A bound type that is written with arguments is read as a
path, which stands for the definition, with just the arguments as they are written, in their order. -/
theorem Registry.map_parses {r : Registry} {overrides : Overrides} {maxDepth : Nat}
    {fallback : String} {h : Handle} (hr : r.Built) (hn : r.AsciiNames) (ho : overrides.RenamesOnly)
    (hf : IsPath fallback) (ha : (r.mapper overrides maxDepth fallback).Admits h) :
    let m := r.mapper overrides maxDepth fallback
    ∃ s, Memo.fresh (m.map h).run = .ok s ∧
      (s = .inferred ∨ ∃! e : TypeExpr, s = .written e.text) ∧
      (m.IsNamed h → m.IsExpanded h → ∃ head first rest,
        s = .written (TypeExpr.applied head first rest).text ∧
        (∀ u, r.definition? h = some u → m.WrittenAs u (.path head)) ∧
        List.Forall₂ m.WrittenAs (r.writtenArguments h) (first :: rest)) := by
  intro m
  have hwf : r.WellFormed := hr.reachable.wellFormed
  have hm : m.Plain := ⟨hr.coherent, hn, ho, hf, fun _ _ _ => rfl⟩
  refine ⟨m.spelling h, Mapper.fresh_map hwf ha, ?_, fun hnamed he => ?_⟩
  · cases hs : m.spelling h with
    | inferred => exact .inl rfl
    | written text =>
      obtain ⟨e, rfl⟩ := hm.spelling_parses h text hs
      refine .inr ⟨e, rfl, fun e' he' => TypeExpr.text_injective ?_⟩
      exact (Spelling.written.inj he').symm
  · obtain ⟨u, hu⟩ := he.bound
    obtain ⟨head, first, rest, hs, hhead, hargs⟩ := hm.spelling_of_isExpanded hnamed he hu
    refine ⟨head, first, rest, hs, fun u' hu' => ?_, ?_⟩
    · obtain rfl := Option.some.inj (hu.symm.trans hu')
      have hau := (Mapper.DependsOn.definition hnamed he hu).admits hwf ha
      exact Mapper.writesOver_iff.2 ⟨_, Mapper.fresh_map hwf hau, by rw [hhead, TypeExpr.text_path]⟩
    · have hadmits : ∀ a ∈ r.writtenArguments h, m.Admits a := fun a hmem =>
        (Mapper.DependsOn.argument hnamed he hmem).admits hwf ha
      refine ((List.forall₂_and_left _ _).2 ⟨hadmits, hargs⟩).imp fun a e hae => ?_
      exact Mapper.writesOver_iff.2 ⟨_, Mapper.fresh_map hwf hae.1, hae.2⟩

/-- A pair of a function and an array, under another name. -/
theorem Registry.map_parses_pair :
    let r := ofConstructions [.builtin .int32, .builtin .string, .array 0,
      .delegate "Lib.Core" "Measure" 0 [1] 0, .generic "Lib.Core" "Pair" 2 false,
      .instantiate 4 [3, 2]]
    let overrides : Overrides :=
      ⟨Overrides.empty.byName.insert "Lib.Core.Pair<,>" ⟨"Lib.Core.Pair<,>", .rename "duo.Two", false⟩⟩
    let m := r.mapper overrides 2 "Dynamic"
    m.Admits 5 ∧ ∃ head first second,
      Memo.fresh (m.map 5).run = .ok (.written (TypeExpr.applied head first [second]).text) ∧
      head.text = "duo.Two" ∧ first.text = "(String -> Int)" ∧ second.text = "Array<Int>" := by
  intro r overrides m
  have hr : r.Built := ⟨_, by decide, rfl⟩
  have hdeclared : ∀ h < 6, ∀ d ∈ r.declared? h, IsIdentifier d.name ∧ IsNamespace d.namespaceName := by
    decide +kernel
  have hform : ∀ h < 6, ∀ form ∈ r.form? h, form.kind ≠ .parameter := by decide +kernel
  have hn : r.AsciiNames := by
    have hsize : r.size = 6 := by decide +kernel
    refine ⟨fun h d hd => ?_, fun h d hd => ?_, fun h name hf => ?_⟩
    · obtain ⟨t, ht, -⟩ := exists_get?_of_declared? hd
      exact (hdeclared h (hsize ▸ get?_eq_some_lt ht) d hd).1
    · obtain ⟨t, ht, -⟩ := exists_get?_of_declared? hd
      exact (hdeclared h (hsize ▸ get?_eq_some_lt ht) d hd).2
    · exact absurd rfl (hform h (hsize ▸ lt_size_of_form? hf) _ hf)
  have ho : overrides.RenamesOnly := by
    intro name o hlookup
    rw [Overrides.lookup, Std.ExtTreeMap.getElem?_insert] at hlookup
    split_ifs at hlookup
    · obtain rfl := Option.some.inj hlookup
      exact ⟨_, rfl, by decide⟩
    · cases hlookup
  have ha : m.Admits 5 := ⟨2, by decide +kernel, by decide⟩
  have hnamed : m.IsNamed 5 := by
    refine .inr ⟨{ namespaceName := "Lib.Core", name := "Pair", arity := 2, arguments := [3, 2],
                   definition := some 4 }, ?_⟩
    decide +kernel
  have hexpansion : m.expansion? 5 = some (4, [3, 2]) := by decide +kernel
  obtain ⟨he, hdef, harguments⟩ := Mapper.expansion?_eq_some_iff.1 hexpansion
  obtain ⟨s, hs, -, hexpanded⟩ := map_parses hr hn ho (by decide) ha
  obtain ⟨head, first, rest, rfl, hhead, hargs⟩ := hexpanded hnamed he
  have hmapped : ∀ {h text e}, Memo.fresh (m.map h).run = .ok (.written text) → m.WrittenAs h e →
      e.text = text := fun hs he => he.unique (.inl hs)
  rw [show r.writtenArguments 5 = [3, 2] from harguments] at hargs
  cases hargs with
  | cons hfirst hargs => cases hargs with
    | cons hsecond hargs =>
      cases hargs
      refine ⟨ha, head, first, _, hs, ?_, ?_, ?_⟩
      · rw [← TypeExpr.text_path]
        exact hmapped (by decide +kernel) (hhead 4 hdef)
      · exact hmapped (by decide +kernel) hfirst
      · exact hmapped (by decide +kernel) hsecond

end TypeBridge
