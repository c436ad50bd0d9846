import TypeBridge.Proofs.Inference
import TypeBridge.Proofs.OverrideReach

/-!
# Where the fallback shows

The fallback stands in for what has no text of its own: a type inside another that is left to inference, and
an argument that a template asks for by number and the type does not have. Where there is neither, a type is
spelled alike with every fallback (`spelling_writing`): the texts that are written in are the same, and with
them all that is done with these texts, such as the comparison with the names of primitives. The outlines do
not look at the fallback, so the same types are met on the way, and the memos are the same too
(`fallback_only_fills_holes`).
-/

namespace TypeBridge

/-- The rule asks for none but the first `count` arguments by number. -/
def Rule.Within (count : Nat) : Rule → Prop
  | .rename _ => True
  | .template t => ∀ i, Segment.argument i ∈ t.segments → i < count

theorem Rule.apply_congr_fallback {rule : Rule} (cx : Context) (fallback : String)
    (hrule : rule.Within cx.arguments.length) :
    rule.apply { cx with fallback } = rule.apply cx := by
  cases rule with
  | rename text => rfl
  | template t =>
    refine congrArg String.join (List.map_congr_left fun segment hs => ?_)
    cases segment with
    | argument i =>
      have hi := hrule i hs
      simp [Segment.render, hi]
    | _ => rfl

theorem Rule.within_of_not_usesArguments {rule : Rule} (hrule : rule.usesArguments = false)
    (count : Nat) : rule.Within count := by
  cases rule with
  | rename text => trivial
  | template t =>
    intro i hi
    cases hrule.symm.trans (List.any_eq_true.2 ⟨_, hi, rfl⟩)

/-- The fallback is left out of a filled outline, when the rule in it asks for no missing argument. -/
theorem Outline.spelling_congr_fallback {o : Outline String} {fallback fallback' : String}
    (ho : ∀ rule name namespaceName arguments, o = .replaced rule name namespaceName arguments →
      rule.Within arguments.length) : o.spelling fallback' = o.spelling fallback := by
  cases o with
  | replaced rule name namespaceName arguments =>
    have hwithin : rule.Within arguments.length := ho _ _ _ _ rfl
    exact congrArg Spelling.written
      (Rule.apply_congr_fallback { name, namespaceName, arguments, fallback } fallback' hwithin)
  | _ => rfl

namespace Mapper

variable {m : Mapper} {h u x : Handle} {hs : List Handle} {memo : Memo} {fallback : String}

def writing (m : Mapper) (fallback : String) : Mapper :=
  { m with fallback }

/-- If the type is replaced, then by a rule that asks for no argument beyond those of the type. -/
def AsksWithin (m : Mapper) (u : Handle) : Prop :=
  ∀ rule name namespaceName arguments, m.outline u = .replaced rule name namespaceName arguments →
    rule.Within (m.registry.writtenArguments u).length

theorem AsksWithin.arguments (hu : m.AsksWithin u) {rule : Rule} {name namespaceName : String}
    {arguments : List Handle} (ho : m.outline u = .replaced rule name namespaceName arguments) :
    rule.Within arguments.length := by
  have hwithin := hu _ _ _ _ ho
  obtain ⟨hn, hs, o, hover, rfl⟩ := outline_eq_replaced ho
  by_cases he : m.IsExpanded u
  · obtain ⟨d, hd⟩ := he.bound
    rw [outline_of_isExpanded hn he hd] at ho
    cases ho
  · rw [outline_of_isNamed hn, namedOutline, expansion?_eq_none_iff.2 he, hs, hover] at ho
    obtain ⟨-, -, -, rfl⟩ := Outline.replaced.inj ho
    split_ifs with huses
    · exact hwithin
    · exact Rule.within_of_not_usesArguments (by simpa using huses) _

theorem dependsOn_writing (m : Mapper) (fallback : String) :
    (m.writing fallback).DependsOn = m.DependsOn := by
  funext u c
  have houtline : (m.writing fallback).outline u = m.outline u := rfl
  rw [← mem_holes_iff.eq, ← mem_holes_iff.eq, houtline]

theorem spellingFrom_writing (spelled : Handle → Spelling) (h : Handle) :
    (m.writing fallback).spellingFrom spelled h =
      ((m.outline h).map fun c => (spelled c).textOr fallback).spelling fallback :=
  rfl

theorem spelling_writing (hr : m.registry.WellFormed)
    (hwritten : ∀ c, Relation.TransGen m.DependsOn h c → m.spelling c ≠ .inferred)
    (hrules : ∀ u, Relation.ReflTransGen m.DependsOn h u → m.AsksWithin u) :
    (m.writing fallback).spelling h = m.spelling h := by
  induction h using Nat.strongRecOn with
  | ind h ih =>
    rw [spelling_eq (m := m.writing fallback) hr, spelling_eq hr, spellingFrom_writing, spellingFrom]
    -- every hole is filled with a text of its own
    have hfilled : ((m.outline h).map fun c => ((m.writing fallback).spelling c).textOr fallback) =
        (m.outline h).map fun c => (m.spelling c).textOr m.fallback := by
      refine Outline.map_congr fun c hc => ?_
      have hd := mem_holes_iff.1 hc
      rw [ih c (hole_lt hr hc) (fun c' hc' => hwritten c' (.head hd hc'))
        fun u hu => hrules u (.head hd hu)]
      cases hs : m.spelling c with
      | written text => rfl
      | inferred => exact absurd hs (hwritten c (.single hd))
    rw [hfilled]
    refine Outline.spelling_congr_fallback fun rule name namespaceName arguments hmap => ?_
    cases ho : m.outline h with
    | replaced rule' name' namespaceName' arguments' =>
      rw [ho] at hmap
      obtain ⟨rfl, -, -, rfl⟩ := Outline.replaced.inj hmap
      rw [List.length_map]
      exact (hrules h .refl).arguments ho
    | _ => rw [ho] at hmap; cases hmap

theorem Fills.of_writing (hf : (m.writing fallback).Fills .empty hs memo) (hr : m.registry.WellFormed)
    (hspelled : ∀ x, Memo.Missed m.DependsOn .empty hs x →
      (m.writing fallback).spelling x = m.spelling x) : m.Fills .empty hs memo := by
  have hmem : ∀ x, x ∈ memo ↔ x ∈ Memo.empty ∨ Memo.Missed m.DependsOn .empty hs x := by
    intro x
    rw [hf.mem_iff, dependsOn_writing]
  refine ⟨hmem, fun x s hs => ?_⟩
  rcases (hmem x).1 (of_getElem?_eq_some hs) with hx | hx
  · exact absurd hx Std.ExtTreeMap.not_mem_empty
  · rw [hf.agrees x s hs, spellingOver_empty (m := m.writing fallback) hr, spellingOver_empty hr,
      hspelled x hx]

/-- The fallback only fills holes. Another one changes nothing for a type, neither the answer nor what is
remembered on the way to it, if no built-in or named type inside is left to inference and no rule that is
applied on the way asks for an argument that is not there. The type itself may be left to inference. -/
theorem fallback_only_fills_holes (hr : m.registry.Reachable) (fallback : String)
    (hwritten : ∀ u, Relation.TransGen m.DependsOn h u → m.IsNamed u →
      Memo.fresh (m.map u).run ≠ .ok .inferred)
    (hrules : ∀ u, Relation.ReflTransGen m.DependsOn h u → m.AsksWithin u) :
    (m.map h).run.run .empty = ((m.writing fallback).map h).run.run .empty := by
  have hwf := hr.wellFormed
  by_cases ha : m.Admits h
  · have hspelled : ∀ x, Relation.ReflTransGen m.DependsOn h x →
        (m.writing fallback).spelling x = m.spelling x := by
      intro x hx
      refine spelling_writing hwf (fun c hc hinferred => ?_) fun u hu => hrules u (hx.trans hu)
      have hc : Relation.TransGen m.DependsOn h c := .trans_right hx hc
      have hac := ha.of_reflTransGen hwf hc.to_reflTransGen
      obtain ⟨hn, -⟩ := isUntypedArray_of_spelling hwf (hac.lt_size hwf) hinferred
      exact hwritten c hc hn (by rw [fresh_map hwf hac, hinferred])
    have ha' : (m.writing fallback).Admits h := ha
    have hanswer : Memo.fresh (m.map h).run = Memo.fresh ((m.writing fallback).map h).run := by
      rw [fresh_map hwf ha, fresh_map (m := m.writing fallback) hwf ha', hspelled h .refl]
    have hfills := (computes_map hwf h).fills .empty
    have hfills' := (computes_map (m := m.writing fallback) hwf h).fills .empty
    rw [admitted_of_admits ha] at hfills
    rw [admitted_of_admits ha'] at hfills'
    exact Prod.ext hanswer
      (hfills.unique (hfills'.of_writing hwf fun x hx => hspelled x hx.reflTransGen))
  · -- the call is refused before anything is written
    cases hd : m.registry.depth? h with
    | none => simp only [map, writing, hd]
    | some depth =>
      have hlt : m.maxDepth < depth := by
        by_contra hle
        exact ha ⟨depth, hd, Nat.le_of_not_lt hle⟩
      simp only [map, writing, hd, hlt, if_true]

/-- An array of pairs, and a template that turns pairs around. The pair in which nothing is bound is written
with the fallback, but it is not met. -/
theorem fallback_only_fills_holes_pairs :
    let swapped : Template := ⟨[.literal "Duo<", .argument 1, .literal ", ", .argument 0, .literal ">"]⟩
    let o : Override := ⟨"Lib.Pair<,>", .template swapped, true⟩
    let m : Mapper :=
      { registry := .ofConstructions [.builtin .int32, .builtin .string, .generic "Lib" "Pair" 2 false,
          .instantiate 2 [0, 1], .array 3]
        overrides := ⟨Overrides.empty.byName.insert o.typeName o⟩ }
    (m.map 4).run.run .empty = ((m.writing "Any").map 4).run.run .empty ∧
      Memo.fresh (m.map 4).run = .ok (.written "Array<Duo<String, Int>>") ∧
      Memo.fresh (m.map 2).run ≠ Memo.fresh ((m.writing "Any").map 2).run := by
  intro swapped o m
  have hclosed : ∀ u ∈ [4, 3, 0, 1], ∀ c ∈ (m.outline u).holes, c ∈ [4, 3, 0, 1] := by decide +kernel
  have hmet : ∀ u, Relation.ReflTransGen m.DependsOn 4 u → u ∈ [4, 3, 0, 1] := by
    intro u hu
    induction hu with
    | refl => decide
    | tail _ hd ih => exact hclosed _ ih _ hd.mem_holes
  have hwritten : ∀ u ∈ [4, 3, 0, 1], Memo.fresh (m.map u).run ≠ .ok .inferred := by decide +kernel
  have hnone : ∀ u ∈ [4, 0, 1], m.override? u = none := by decide +kernel
  have hpair : m.override? 3 = some o := by decide +kernel
  have harguments : m.registry.writtenArguments 3 = [0, 1] := by decide +kernel
  refine ⟨fallback_only_fills_holes ⟨_, rfl⟩ "Any"
    (fun u hu _ => hwritten u (hmet u hu.to_reflTransGen)) fun u hu => ?_,
    by decide +kernel, by decide +kernel⟩
  intro rule name namespaceName arguments hout
  obtain ⟨-, -, o', ho', rfl⟩ := outline_eq_replaced hout
  by_cases h₃ : u = 3
  · subst h₃
    obtain rfl := Option.some.inj (hpair.symm.trans ho')
    intro i hi
    have hi : i = 1 ∨ i = 0 := by simpa [swapped] using hi
    rw [harguments]
    simp only [List.length_cons, List.length_nil]
    omega
  · have hu := hmet u hu
    simp only [List.mem_cons, h₃, false_or] at hu
    cases (hnone u (by simpa using hu)).symm.trans ho'

end Mapper
end TypeBridge
