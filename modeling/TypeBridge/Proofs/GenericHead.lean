import Mathlib.Data.List.TakeWhile
import TypeBridge.Proofs.Family
import TypeBridge.Proofs.Marks

/-!
# The head of a generic type

The arguments of a generic type may have brackets of their own at any depth, but the text before them has
none: it is the spelling of a definition, which is written with no other type (`holes_definition`). So what
the rules write there are declared names, texts of the overrides and the fallback, and where none of these
has an opening bracket, the first one in the whole is the one that the arguments begin with. To cut the text
off there leaves the head.
-/

namespace TypeBridge

/-- Where the arguments of a generic type begin. -/
def argumentMarks : List Char :=
  ['<']

theorem isMark_of_mem_argumentMarks : ∀ c ∈ argumentMarks, IsMark c := by
  decide

namespace Target

theorem withoutArguments_applied {head : String} (hhead : Avoids argumentMarks head)
    (arguments : List String) : withoutArguments (applied head arguments) = head := by
  have hkept : ∀ c ∈ head.toList, (c != '<') = true := by
    intro c hc
    simpa [argumentMarks] using hhead c hc
  refine String.toList_injective ?_
  rw [toList_withoutArguments, applied, String.append_assoc, String.append_assoc,
    String.toList_append, List.takeWhile_append_of_pos hkept]
  simp

theorem withoutArguments_withoutArguments (text : String) :
    withoutArguments (withoutArguments text) = withoutArguments text := by
  refine String.toList_injective ?_
  rw [toList_withoutArguments, toList_withoutArguments, List.takeWhile_idem]

end Target

/-- An outline that is written with no other type has none of the characters when its own text has none. -/
theorem Outline.Avoids.spelling {o : Outline String} {marks : List Char} {fallback : String}
    (ho : o.Avoids marks) (hmarks : ∀ c ∈ marks, IsMark c) (hcomma : TypeBridge.Avoids marks ", ")
    (hholes : o.holes = []) (hf : TypeBridge.Avoids marks fallback) :
    (o.spelling fallback).Avoids marks := by
  cases o with
  | fixed s => exact ho
  | replaced rule name namespaceName arguments =>
    obtain ⟨hrule, hname, hns⟩ := ho
    obtain rfl : arguments = [] := hholes
    exact Spelling.avoids_written <|
      hrule.apply hmarks id TypeBridge.Avoids.append hname hns hcomma nofun hf
  | function params result => exact absurd hholes (by simp [Outline.holes])
  | array _ | nullable _ | applied _ _ => cases hholes

namespace Mapper
variable {m : Mapper} {h u : Handle}

theorem holes_definition (hr : m.registry.Coherent) (hn : m.IsNamed h)
    (hu : m.registry.definition? h = some u) : (m.outline u).holes = [] := by
  refine List.eq_nil_iff_forall_not_mem.2 fun c hc => ?_
  rw [outline_of_isNamed (isNamed_definition hr hn hu), mem_holes_namedOutline] at hc
  rcases hc with ⟨he, -⟩ | ⟨-, -, o, -, -, hc⟩
  · exact not_isExpanded_definition hr hu he
  · rw [hr.writtenArguments_definition hu] at hc
    cases hc

theorem avoids_spelling_definition {marks : List Char} (hr : m.registry.Coherent)
    (hmarks : ∀ c ∈ marks, IsMark c) (hcomma : Avoids marks ", ")
    (hnames : m.registry.AllForms (Form.DeclaredNamesAvoid marks)) (hover : m.overrides.Avoid marks)
    (hf : Avoids marks m.fallback) (hn : m.IsNamed h) (hu : m.registry.definition? h = some u) :
    (m.spelling u).Avoids marks := by
  have hnu := isNamed_definition hr hn hu
  have houtline : (m.outline u).Avoids marks := by
    rw [outline_of_isNamed hnu]
    exact avoids_namedOutline hr.toWellFormed hmarks hnames hover hnu
  rw [spelling_eq hr.toWellFormed, spellingFrom]
  refine (houtline.map _).spelling hmarks hcomma ?_ hf
  rw [Outline.holes_map, holes_definition hr hn hu, List.map_nil]

/-- Let no name of a type or namespace, no text of the overrides and not the fallback have an opening angle
bracket, in whatever is built without raw descriptors. Type parameters, members and the names of record types
may have some. Then a named type with arguments that is not refused is written as the text for its definition
with the arguments in brackets, and of this just the text for the definition is left when it is cut off at the
first opening bracket. To cut once more changes nothing. -/
theorem withoutArguments_of_isExpanded {declared : Declared Handle} (hr : m.registry.Built)
    (hnames : m.registry.AllForms (Form.DeclaredNamesAvoid argumentMarks))
    (hover : m.overrides.Avoid argumentMarks) (hf : Avoids argumentMarks m.fallback)
    (hd : m.registry.form? h = some (.named declared)) (he : m.IsExpanded h) (ha : m.Admits h) :
    ∃ u head texts text, m.registry.definition? h = some u ∧ m.Writes u head ∧
      List.Forall₂ m.Writes (m.registry.writtenArguments h) texts ∧
      Memo.fresh (m.map h).run = .ok (.written text) ∧
      text = head ++ "<" ++ ", ".intercalate texts ++ ">" ∧
      Target.withoutArguments text = head ∧
      Target.withoutArguments (Target.withoutArguments text) = Target.withoutArguments text := by
  have hcoh := hr.coherent
  have hwf := hcoh.toWellFormed
  have hn : m.IsNamed h := .inr ⟨declared, hd⟩
  obtain ⟨u, hu⟩ := he.bound
  have hhead : Avoids argumentMarks ((m.spelling u).textOr m.fallback) :=
    Spelling.textOr_of_forall (avoids_spelling_definition hcoh isMark_of_mem_argumentMarks (by decide)
      hnames hover hf hn hu) hf
  refine ⟨u, _, _, _, hu, writes_of_admits hwf ((DependsOn.definition hn he hu).admits hwf ha),
    forall₂_writes hwf fun c hc => (DependsOn.argument hn he hc).admits hwf ha, ?_, rfl,
    Target.withoutArguments_applied hhead _, Target.withoutArguments_withoutArguments _⟩
  rw [fresh_map hwf ha, spelling_of_isExpanded hwf hn he hu]
  rfl

/-- A pair of boxes and of arrays of boxes, and a template that asks for an argument, which the definition
does not have. A type parameter has a bracket in its name. -/
theorem withoutArguments_of_isExpanded_pairs :
    let o : Override := ⟨"Lib.Pair<,>", .template ⟨[.nameLower, .literal "_", .argument 0]⟩, false⟩
    let m : Mapper :=
      { registry := .ofConstructions [.builtin .int32, .generic "Lib" "Box" 1 false, .instantiate 1 [0],
          .array 2, .generic "Lib" "Pair" 2 false, .instantiate 4 [2, 3], .parameter "<T"]
        overrides := ⟨Overrides.empty.byName.insert o.typeName o⟩
        fallback := "Any" }
    let text := "pair_Any<lib.Box<Int>, Array<lib.Box<Int>>>"
    Memo.fresh (m.map 5).run = .ok (.written text) ∧ m.Writes 4 "pair_Any" ∧
      Target.withoutArguments text = "pair_Any" ∧ Target.withoutArguments "pair_Any" = "pair_Any" := by
  intro o m text
  have hover : m.overrides.Avoid argumentMarks := by
    intro name o' ho'
    have hlookup : (Overrides.empty.byName.insert o.typeName o)[name]? = some o' := ho'
    rw [Std.ExtTreeMap.getElem?_insert] at hlookup
    split_ifs at hlookup
    · obtain rfl := Option.some.inj hlookup
      intro literal hliteral
      obtain rfl : literal = "_" := by simpa using hliteral
      decide
    · cases hlookup
  have hnames : m.registry.AllForms (Form.DeclaredNamesAvoid argumentMarks) := by decide +kernel
  obtain ⟨declared, hd⟩ : ∃ declared, m.registry.form? 5 = some (.named declared) :=
    ⟨{ namespaceName := "Lib", name := "Pair", arity := 2, arguments := [2, 3], definition := some 4 },
      by decide +kernel⟩
  obtain ⟨he, hu, -⟩ := expansion?_eq_some_iff.1
    (show m.expansion? 5 = some (4, [2, 3]) by decide +kernel)
  have ha : m.Admits 5 := ⟨3, by decide +kernel, by decide⟩
  obtain ⟨u, head, texts, text', hu', hhead, -, htext, -, hcut, hagain⟩ :=
    withoutArguments_of_isExpanded ⟨_, by decide, rfl⟩ hnames hover (by decide) hd he ha
  obtain rfl : 4 = u := Option.some.inj (hu.symm.trans hu')
  have hspelled : Memo.fresh (m.map 5).run = .ok (.written text) := by decide +kernel
  obtain rfl : text = text' := Spelling.written.inj (Except.ok.inj (hspelled.symm.trans htext))
  have hpair : m.Writes 4 "pair_Any" := .inl (by decide +kernel)
  obtain rfl : head = "pair_Any" := hhead.unique hpair
  rw [hcut] at hagain
  exact ⟨hspelled, hhead, hcut, hagain⟩

end Mapper
end TypeBridge
