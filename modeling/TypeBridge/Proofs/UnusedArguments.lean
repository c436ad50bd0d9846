import TypeBridge.Proofs.DepthLimit

/-!
# Arguments that a rule does not look at

A rule says by its segments whether it looks at arguments, and it says so exactly
(`Rule.usesArguments_eq_false_iff`): without such a segment all types of one name are replaced alike, and
each such segment adds a character when a fallback and an argument of one character take the place of
nothing. So a mapper does not have to look up arguments for a rule that looks at none.
-/

namespace TypeBridge

variable {cx cx' : Context} {name namespaceName : String}

namespace Context

/-- A type without arguments, and nothing to put in the place of one. -/
def bare (name namespaceName : String) : Context where
  name
  namespaceName
  arguments := []
  fallback := ""

/-- A type with an argument of one character, and a fallback that looks like it. -/
def marked (name namespaceName : String) : Context where
  name
  namespaceName
  arguments := ["_"]
  fallback := "_"

end Context

theorem Segment.render_congr {s : Segment} (hs : s.usesArguments = false) (hname : cx.name = cx'.name)
    (hns : cx.namespaceName = cx'.namespaceName) : s.render cx = s.render cx' := by
  cases s with
  | literal text => rfl
  | name => exact hname
  | nameLower => exact congrArg Text.lowercase hname
  | namespaceName => exact hns
  | namespaceLower => exact congrArg Text.lowercase hns
  | arguments | argument _ => cases hs

theorem Segment.length_render_marked (s : Segment) (name namespaceName : String) :
    (s.render (.marked name namespaceName)).length =
      (s.render (.bare name namespaceName)).length + if s.usesArguments then 1 else 0 := by
  cases hs : s.usesArguments with
  | false =>
    have hsame : s.render (.marked name namespaceName) = s.render (.bare name namespaceName) :=
      render_congr hs rfl rfl
    rw [hsame, if_neg Bool.false_ne_true, Nat.add_zero]
  | true =>
    have hmark : "_".length = 1 := by decide
    cases s with
    | arguments => simp [render, Context.marked, Context.bare, hmark]
    | argument index =>
      -- beyond the one argument stands the fallback, which looks like it
      cases index <;> simp [render, Context.marked, Context.bare, hmark]
    | _ => cases hs

namespace Template

theorem render_congr {t : Template} (ht : t.usesArguments = false) (hname : cx.name = cx'.name)
    (hns : cx.namespaceName = cx'.namespaceName) : t.render cx = t.render cx' := by
  refine congrArg String.join (List.map_congr_left fun s hs => ?_)
  have huses : s.usesArguments = false := Bool.eq_false_iff.2 (List.any_eq_false.1 ht s hs)
  exact Segment.render_congr huses hname hns

/-- The rendering grows by one character for each segment that looks at arguments. -/
theorem length_render_marked (t : Template) (name namespaceName : String) :
    (t.render (.marked name namespaceName)).length =
      (t.render (.bare name namespaceName)).length + t.segments.countP Segment.usesArguments := by
  obtain ⟨segments⟩ := t
  simp only [render]
  induction segments with
  | nil => rfl
  | cons s segments ih =>
    rw [List.map_cons, List.map_cons, String.join_cons, String.join_cons, String.length_append,
      String.length_append, ih, s.length_render_marked, List.countP_cons]
    omega

end Template

namespace Rule
variable {rule : Rule}

theorem apply_congr (hrule : rule.usesArguments = false) (hname : cx.name = cx'.name)
    (hns : cx.namespaceName = cx'.namespaceName) : rule.apply cx = rule.apply cx' := by
  cases rule with
  | rename text => rfl
  | template t => exact t.render_congr hrule hname hns

theorem apply_marked_ne (hrule : rule.usesArguments = true) :
    rule.apply (.marked name namespaceName) ≠ rule.apply (.bare name namespaceName) := by
  cases rule with
  | rename text => cases hrule
  | template t =>
    have hcount : 0 < t.segments.countP Segment.usesArguments :=
      List.countP_pos_iff.2 (List.any_eq_true.1 hrule)
    have hlength := t.length_render_marked name namespaceName
    intro heq
    have heq : t.render (.marked name namespaceName) = t.render (.bare name namespaceName) := heq
    rw [heq] at hlength
    omega

theorem usesArguments_eq_false_iff : rule.usesArguments = false ↔
    ∀ cx cx' : Context, cx.name = cx'.name → cx.namespaceName = cx'.namespaceName →
      rule.apply cx = rule.apply cx' := by
  refine ⟨fun hrule _ _ => apply_congr hrule, fun hsame => Bool.eq_false_iff.2 fun huses => ?_⟩
  exact apply_marked_ne huses (hsame (.marked "" "") (.bare "" "") rfl rfl)

end Rule

namespace Mapper
variable {m : Mapper} {o : Override} {h : Handle} {limit : Nat}

/-- What an override writes for a type. Arguments are looked up for a rule that looks at them. -/
def replace (m : Mapper) (o : Override) (h : Handle) : StateM Memo Spelling := do
  let arguments := if o.rule.usesArguments then m.registry.writtenArguments h else []
  let texts ← arguments.mapM fun c => (·.textOr m.fallback) <$> m.remember c
  return .written (o.rule.apply
    { name := (m.registry.declaredName h).1
      namespaceName := (m.registry.declaredName h).2
      arguments := texts
      fallback := m.fallback })

theorem remember_of_override (hr : m.registry.WellFormed) (hn : m.IsNamed h) (he : ¬ m.IsExpanded h)
    (hs : standardSpelling? (m.registry.canonicalName h) = none) (ho : m.override? h = some o) :
    m.remember h = Memo.remember h (m.replace o h) := by
  have houtline : m.outline h = .replaced o.rule (m.registry.declaredName h).1
      (m.registry.declaredName h).2
      (if o.rule.usesArguments then m.registry.writtenArguments h else []) := by
    rw [outline_of_isNamed hn, namedOutline, expansion?_eq_none_iff.2 he, hs, ho]
  have hearlier : ∀ c ∈ (if o.rule.usesArguments then m.registry.writtenArguments h else []),
      (if _hc : c < h then (·.textOr m.fallback) <$> m.remember c else pure m.fallback) =
        (·.textOr m.fallback) <$> m.remember c := by
    intro c hc
    have hhole : c ∈ (m.outline h).holes := by rwa [houtline]
    exact dif_pos (hole_lt hr hhole)
  rw [remember, houtline, Outline.fill, mapM_congr hearlier]
  rfl

theorem replace_of_not_usesArguments (hrule : o.rule.usesArguments = false) :
    ∃ s, m.replace o h = pure s := by
  simp only [replace, hrule]
  exact ⟨_, rfl⟩

theorem writesOver_of_admits (hr : m.registry.WellFormed) (ha : (m.limited limit).Admits h)
    (memo : Memo) :
    (m.limited limit).WritesOver memo h ((m.spellingOver memo h).textOr m.fallback) := by
  have hsame : (m.limited limit).remember h = m.remember h := remember_congr hr rfl fun _ _ => rfl
  refine writesOver_iff.2 ⟨m.spellingOver memo h, ?_, rfl⟩
  rw [map_of_admits ha, hsame, ← (computes_remember hr h).answer memo]
  rfl

theorem answer_replace (hr : m.registry.WellFormed) (o : Override) (h : Handle) (memo : Memo) :
    ((m.replace o h).run memo).1 = .written (o.rule.apply
      { name := (m.registry.declaredName h).1
        namespaceName := (m.registry.declaredName h).2
        arguments := (m.registry.writtenArguments h).map fun c =>
          (m.spellingOver memo c).textOr m.fallback
        fallback := m.fallback }) := by
  cases hrule : o.rule.usesArguments with
  | true =>
    have htext : ∀ c ∈ m.registry.writtenArguments h, m.Computes
        ((·.textOr m.fallback) <$> m.remember c) [c] fun g => (g c).textOr m.fallback :=
      fun c _ => (computes_remember hr c).map (·.textOr m.fallback)
    have htexts := Computes.mapM hr htext
    rw [← htexts.answer memo]
    simp only [replace, hrule, if_true]
    rfl
  | false =>
    simp only [replace, hrule]
    exact congrArg Spelling.written (Rule.apply_congr hrule rfl rfl)

/-- Whether a rule looks at arguments shows in the texts it gives: it does not just when all types of one
name and namespace are replaced by one text, whatever their arguments and the fallback. So for every type
and override, and over every memo, the replacement is that of the rule with all arguments the type is
written with, each as a call for it over that memo gives it, whatever limit the call has. No argument is
looked up when the rule looks at none: the memo is neither read nor changed. This is how every mapper
replaces the named types for which an override is followed. -/
theorem unused_arguments_skipped :
    (∀ rule : Rule, rule.usesArguments = false ↔
      ∀ cx cx' : Context, cx.name = cx'.name → cx.namespaceName = cx'.namespaceName →
        rule.apply cx = rule.apply cx') ∧
    ∀ (m : Mapper) (o : Override) (h : Handle), m.registry.Reachable →
      (∀ limit, (∀ c ∈ m.registry.writtenArguments h, (m.limited limit).Admits c) →
        ∀ memo, ∃ texts,
          List.Forall₂ ((m.limited limit).WritesOver memo) (m.registry.writtenArguments h) texts ∧
          ((m.replace o h).run memo).1 = .written (o.rule.apply
            { name := (m.registry.declaredName h).1
              namespaceName := (m.registry.declaredName h).2
              arguments := texts
              fallback := m.fallback })) ∧
      (o.rule.usesArguments = false → ∃ s, m.replace o h = pure s) ∧
      (m.IsNamed h → ¬ m.IsExpanded h → standardSpelling? (m.registry.canonicalName h) = none →
        m.override? h = some o → m.remember h = Memo.remember h (m.replace o h)) := by
  refine ⟨fun _ => Rule.usesArguments_eq_false_iff, fun m o h hr => ⟨fun limit ha memo => ?_,
    replace_of_not_usesArguments, remember_of_override hr.wellFormed⟩⟩
  refine ⟨_, ?_, answer_replace hr.wellFormed o h memo⟩
  exact List.forall₂_map_right_iff.2 (List.forall₂_same.2 fun c hc =>
    writesOver_of_admits hr.wellFormed (ha c hc) memo)

/-- A template that writes the name of a pair alone; one that writes its arguments, a string over a memo that
holds something else for strings and an untyped array; and one that asks for an argument that no pair has. -/
theorem unused_arguments_skipped_pairs :
    let lowered : Override := ⟨"Lib.Pair<,>", .template ⟨[.literal "lib/", .nameLower]⟩, true⟩
    let listed : Override := ⟨"Lib.Pair<,>", .template ⟨[.name, .literal ": ", .arguments]⟩, true⟩
    let m : Mapper :=
      { registry := .ofConstructions [.builtin .array, .builtin .string, .generic "Lib" "Pair" 2 false,
          .instantiate 2 [1, 0]]
        overrides := ⟨Overrides.empty.byName.insert lowered.typeName lowered⟩ }
    let memo : Memo := Memo.empty.insert 1 (.written "Foreign")
    let third : Rule := .template ⟨[.name, .argument 2]⟩
    m.registry.writtenArguments 3 = [1, 0] ∧
      (∀ memo, (m.replace lowered 3).run memo = (.written "lib/pair", memo)) ∧
      ((m.replace listed 3).run memo).1 = .written "Pair: Foreign, Dynamic" ∧
      m.remember 3 = Memo.remember 3 (m.replace lowered 3) ∧
      ∃ cx cx' : Context, cx.name = cx'.name ∧ cx.namespaceName = cx'.namespaceName ∧
        third.apply cx ≠ third.apply cx' := by
  intro lowered listed m memo third
  have hr : m.registry.Reachable := ⟨_, rfl⟩
  have harguments : m.registry.writtenArguments 3 = [1, 0] := by decide +kernel
  obtain ⟨hexact, hreplace⟩ := unused_arguments_skipped
  obtain ⟨-, hskipped, hfollowed⟩ := hreplace m lowered 3 hr
  obtain ⟨hlisted, -⟩ := hreplace m listed 3 hr
  refine ⟨harguments, fun memo => ?_, ?_, hfollowed ?_ ?_ (by decide +kernel) (by decide +kernel), ?_⟩
  · obtain ⟨s, hs⟩ := hskipped (by decide)
    have htext : ((m.replace lowered 3).run .empty).1 = .written "lib/pair" := by decide +kernel
    obtain rfl : s = .written "lib/pair" := by rwa [hs] at htext
    rw [hs]
    rfl
  · have ha : ∀ c ∈ [1, 0], (m.limited 0).Admits c := by
      intro c hc
      rcases List.mem_pair.1 hc with rfl | rfl
      · exact ⟨0, by decide +kernel, by decide⟩
      · exact ⟨0, by decide +kernel, by decide⟩
    rw [harguments] at hlisted
    obtain ⟨texts, htexts, hanswer⟩ := hlisted 0 ha memo
    obtain rfl : texts = ["Foreign", "Dynamic"] := forall₂_writesOver_unique htexts
      (.cons (.inl (by decide +kernel)) (.cons (.inr ⟨by decide +kernel, rfl⟩) .nil))
    rw [hanswer]
    decide +kernel
  · exact .inr ⟨{ namespaceName := "Lib", name := "Pair", arity := 2, arguments := [1, 0],
                  definition := some 2 }, by decide +kernel⟩
  · exact expansion?_eq_none_iff.1 (by decide +kernel)
  · by_contra hsame
    have huses : third.usesArguments = false := (hexact third).2 fun cx cx' hname hns => by
      by_contra hne
      exact hsame ⟨cx, cx', hname, hns, hne⟩
    cases huses

end Mapper
end TypeBridge
