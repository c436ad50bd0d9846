import TypeBridge.Proofs.Binding

/-!
# Display forms, piece by piece

`Registry.displayInto` writes a display form after a text that is there already, and hands the text on from
piece to piece: from the type around to the name, from argument to argument. `Appends` says of a way to write
that it leaves the text alone and puts something after it that does not depend on the text. It passes from how
the references of a form are written to how the form is, and so to all types (`appends_displayInto`).

What is bound is shown like the generic type that it was made from, but for the end: the arguments stand where
the generic type has the places of its parameters (`Binds.exists_head`).
-/

namespace TypeBridge

variable {ρ : Type}

/-- To write something is to put its shown form after the text. -/
def Appends (write : ρ → String → String) (shown : ρ → String) : Prop :=
  ∀ x text, write x text = text ++ shown x

namespace Appends

variable {write : ρ → String → String} {shown : ρ → String}

theorem separated (hw : Appends write shown) (separator : String) (xs : List ρ) (text : String) :
    writeSeparated separator write xs text = text ++ separator.intercalate (xs.map shown) := by
  fun_induction writeSeparated separator write xs text with
  | case1 text => rw [List.map_nil, String.intercalate_nil, String.append_empty]
  | case2 x text => rw [List.map_singleton, String.intercalate_singleton, hw]
  | case3 x xs text hne ih =>
    have hrest : xs.map shown ≠ [] := fun hnil => hne (List.map_eq_nil_iff.1 hnil)
    rw [ih, hw, List.map_cons, String.intercalate_cons_of_ne_nil hrest]
    simp only [String.append_assoc]

theorem member (hw : Appends write shown) :
    Appends (fun (m : String × ρ) text => write m.2 text ++ " " ++ m.1)
      fun m => shown m.2 ++ " " ++ m.1 := by
  intro m text
  simp only [hw m.2 text, String.append_assoc]

theorem declared (hw : Appends write shown) :
    Appends (Declared.displayInto write) (Declared.display shown) := by
  intro d text
  unfold Declared.displayInto Declared.display Declared.qualifier Declared.generics
  -- the text is begun by the type around or by the namespace, and ended by arguments or by their places
  cases d.outer with
  | none => split_ifs <;> simp only [hw.separated, String.append_assoc, String.empty_append]
  | some outer => split_ifs <;> simp only [hw.separated, hw outer text, String.append_assoc]

theorem form (hw : Appends write shown) :
    Appends (Form.displayInto write) (Form.display shown) := by
  intro form text
  cases form with
  | builtin | parameter => rfl
  | named d | enumeration d | delegate d => exact hw.declared d text
  | array element =>
    show write element text ++ "[]" = text ++ (shown element ++ "[]")
    rw [hw, String.append_assoc]
  | nullable inner =>
    show write inner text ++ "?" = text ++ (shown inner ++ "?")
    rw [hw, String.append_assoc]
  | record members =>
    cases members with
    | nil =>
      show text ++ "<anonymous type" ++ "" ++ ">" = text ++ ("<anonymous type" ++ "" ++ ">")
      simp only [String.append_assoc]
    | cons m members =>
      show writeSeparated ", " _ (m :: members) (text ++ "<anonymous type" ++ ": ") ++ ">" =
        text ++ ("<anonymous type" ++ (": " ++ ", ".intercalate ((m :: members).map _)) ++ ">")
      rw [hw.member.separated]
      simp only [String.append_assoc]

end Appends

namespace Registry

theorem appends_displayInto (r : Registry) : Appends r.displayInto r.display := by
  intro h
  induction h using Nat.strongRecOn with
  | ind h ih =>
    intro text
    cases ht : r.get? h with
    | none =>
      rw [displayInto, display, fold_of_get?_eq_none ht, fold_of_get?_eq_none ht]
      exact String.append_empty.symm
    | some t =>
      have hearlier : Appends (fun c => if c < h then r.displayInto c else id)
          fun c => if c < h then r.display c else "" := by
        intro c text
        show (if c < h then r.displayInto c else id) text = text ++ if c < h then r.display c else ""
        split_ifs with hc
        · exact ih c hc text
        · exact String.append_empty.symm
      rw [displayInto, display, fold_of_get? ht, fold_of_get? ht]
      exact hearlier.form t.form text

/-! ### Bound types -/

variable {r : Registry} {n h : Handle} {a : List Handle} {d : Declared Handle}

/-- A generic type and what it is bound to are shown alike up to the marker at the end, where the arguments
come in. -/
theorem Binds.exists_head (hr : r.WellFormed) (hb : r.Binds n a h)
    (hf : r.form? h = some (.named d)) :
    ∃ head, r.display n = head ++ arityMarker a.length ∧
      r.display h = head ++ ("<" ++ ", ".intercalate (a.map r.display) ++ ">") := by
  rcases hb.get?_cases with ⟨-, x, -, hh⟩ | ⟨-, g, d', isValue, hg, hbound, hh⟩
  · rw [form?_of_get? hh] at hf
    cases hf
  · obtain ⟨⟨harity, hnone, hlength⟩, rfl⟩ := bound_eq_ok_iff.1 hbound
    have hne : a ≠ [] := List.length_pos_iff.1 (hlength ▸ harity)
    refine ⟨g.qualifier r.display ++ g.name, ?_, ?_⟩
    · rw [display_of_declared? hr (declared?_of_get? hg), Declared.display_of_arguments_eq_nil hnone,
        Declared.unboundName, hlength, String.append_assoc]
    · rw [display_of_declared? hr (declared?_of_get? hh), Declared.display,
        Declared.generics_of_arguments_ne_nil hne]
      rfl

/-- In every registry that constructions lead to, raw ones among them, writing a type after a text leaves the
text as it is and puts the display form of the type after it. Just the generic named types can be bound, to
one known type for each parameter. Unless that comes to an optional type, what it comes to is displayed like
the generic type, with the displayed arguments in the place of the marker at the end; and so it stays through
all later constructions. -/
theorem displayInto_only_appends (hr : r.Reachable) :
    (∀ h text, r.displayInto h text = text ++ r.display h) ∧
    ∀ n a, ((∃ h r₁, (instantiate n a).run r = (.ok h, r₁)) ↔ r.Bindable n a) ∧
      ∀ h r₁ d later, (instantiate n a).run r = (.ok h, r₁) → r₁.form? h = some (.named d) →
        let r₂ := r₁.afterAll later
        ∃ head, r₂.display n = head ++ arityMarker a.length ∧
          r₂.display h = head ++ ("<" ++ ", ".intercalate (a.map r₂.display) ++ ">") := by
  have hwf := hr.wellFormed
  refine ⟨r.appends_displayInto, fun n a => ⟨hwf.exists_run_instantiate_iff, ?_⟩⟩
  intro h r₁ d later hrun hf r₂
  have hwf₁ := (instantiate_grows n a).wellFormed hwf
  rw [hrun] at hwf₁
  obtain ⟨hx, hwf₂⟩ := afterAll_grows hwf₁ later
  exact ((Binds.of_run hwf hrun).mono hx).exists_head hwf₂ (hx.form?_of_some hf)

/-- A generic type inside a bound one is bound to strings and to the type around it. The marker of the type
around is filled in already; only the one at the end is replaced. -/
theorem displayInto_only_appends_pair :
    let r := ofConstructions [.builtin .int32, .builtin .string, .generic "Lib" "Box" 1 false,
      .instantiate 2 [0], .nested 3 "Pair" 2 true]
    let r₁ := (Construction.instantiate 5 [1, 3]).after r
    let r₂ := r₁.afterAll [.array 6]
    (instantiate 5 [1, 3]).run r = (.ok 6, r₁) ∧ r₂.display 5 = "Lib.Box<int>.Pair<,>" ∧
      r₂.display 6 = "Lib.Box<int>.Pair<string, Lib.Box<int>>" ∧
      r₂.displayInto 7 "of " = "of Lib.Box<int>.Pair<string, Lib.Box<int>>[]" := by
  intro r r₁ r₂
  have hr : r.Reachable := ⟨_, rfl⟩
  have hr₂ : r₂.Reachable := (hr.after (.instantiate 5 [1, 3])).after (.array 6)
  have hrun : (instantiate 5 [1, 3]).run r = (.ok 6, r₁) := Prod.ext (by decide +kernel) rfl
  obtain ⟨d, hd⟩ : ∃ d, r₁.form? 6 = some (.named d) := ⟨
    { namespaceName := "Lib", name := "Pair", outer := some 3, arity := 2, arguments := [1, 3],
      definition := some 4 }, by decide +kernel⟩
  obtain ⟨-, hbound⟩ := (displayInto_only_appends hr).2 5 [1, 3]
  obtain ⟨head, hgeneric, hshown⟩ := hbound 6 r₁ d [.array 6] hrun hd
  have hpair : r₂.display 5 = "Lib.Box<int>.Pair" ++ arityMarker 2 := by decide +kernel
  obtain rfl := (String.append_left_inj _).1 (hpair.symm.trans hgeneric)
  refine ⟨hrun, hpair, ?_, ?_⟩
  · rw [hshown]
    decide +kernel
  · rw [(displayInto_only_appends hr₂).1 7]
    decide +kernel

end Registry
end TypeBridge
