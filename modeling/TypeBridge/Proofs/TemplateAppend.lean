import TypeBridge.Proofs.TemplateGrammar

/-!
# Templates one after the other

What stands before a text changes nothing in how it is read, as soon as it is a template of its own: the
two scans stay at the same place of the same word (`Scan.Follows`) and only differ in what they have read.
So templates are put together by putting their texts together, although a literal at the end of the first
is joined to one at the start of the second. An unknown placeholder is an offence whatever comes after it.
-/

namespace TypeBridge

section Alike

variable {ε α β γ δ : Type} {R : α → β → Prop} {S : γ → δ → Prop}

/-- Both fail with the same error, or both succeed with results that are related. -/
inductive Alike (R : α → β → Prop) : Except ε α → Except ε β → Prop
  | ok {a b} (h : R a b) : Alike R (.ok a) (.ok b)
  | error (e : ε) : Alike R (.error e) (.error e)

theorem Alike.bind {x : Except ε α} {y : Except ε β} {f : α → Except ε γ} {g : β → Except ε δ}
    (hx : Alike R x y) (hf : ∀ a b, R a b → Alike S (f a) (g b)) : Alike S (x >>= f) (y >>= g) := by
  cases hx with
  | ok h => exact hf _ _ h
  | error e => exact .error e

theorem Alike.foldlM {f : α → γ → Except ε α} {g : β → γ → Except ε β} {cs : List γ} {a : α} {b : β}
    (h : R a b) (hstep : ∀ a b c, R a b → Alike R (f a c) (g b c)) :
    Alike R (cs.foldlM f a) (cs.foldlM g b) := by
  induction cs generalizing a b with
  | nil => exact .ok h
  | cons c cs ih =>
    rw [List.foldlM_cons, List.foldlM_cons]
    exact (hstep a b c h).bind fun _ _ h' => ih h'

end Alike

namespace Template

theorem render_push (cx : Context) (segments : Array Segment) (s : Segment) :
    render cx ⟨(segments.push s).toList⟩ = render cx ⟨segments.toList⟩ ++ s.render cx := by
  simp [render, String.join_append]

theorem usesArguments_push (segments : Array Segment) (s : Segment) :
    usesArguments ⟨(segments.push s).toList⟩ =
      (usesArguments ⟨segments.toList⟩ || s.usesArguments) := by
  simp [usesArguments]

variable {t t' : Template} {a b source : String}

namespace Scan

variable {s s' : Scan}

theorem render_withLiteral (cx : Context) (s : Scan) :
    render cx ⟨s.withLiteral.toList⟩ = render cx ⟨s.segments.toList⟩ ++ s.text := by
  by_cases ht : s.text = ""
  · rw [withLiteral_of_text_eq ht, ht, String.append_empty]
  · rw [withLiteral, if_neg (by simpa using ht), render_push]
    rfl

theorem usesArguments_withLiteral (s : Scan) :
    usesArguments ⟨s.withLiteral.toList⟩ = usesArguments ⟨s.segments.toList⟩ := by
  by_cases ht : s.text = ""
  · rw [withLiteral_of_text_eq ht]
  · rw [withLiteral, if_neg (by simpa using ht), usesArguments_push]
    exact Bool.or_false _

/-- The rendering of what has been read. Of a placeholder, nothing is rendered before its end. -/
def rendered (cx : Context) (s : Scan) : String :=
  render cx ⟨s.segments.toList⟩ ++ if s.inBraces then "" else s.text

theorem rendered_push (cx : Context) (s : Scan) (c : Char) :
    rendered cx { s with text := s.text.push c } =
      rendered cx s ++ if s.inBraces then "" else String.singleton c := by
  refine String.toList_injective ?_
  cases hin : s.inBraces <;> simp [rendered, hin]

theorem rendered_of_out (cx : Context) (hout : s.inBraces = false) :
    rendered cx s = render cx ⟨s.withLiteral.toList⟩ := by
  simp [rendered, hout, render_withLiteral]

/-- The second scan has read a template, and after it what the first one has read alone. -/
structure Follows (t : Template) (s s' : Scan) : Prop where
  inBraces : s'.inBraces = s.inBraces
  word : s.inBraces = true → s'.text = s.text
  rendered : ∀ cx, s'.rendered cx = t.render cx ++ s.rendered cx
  usesArguments : usesArguments ⟨s'.segments.toList⟩ =
    (t.usesArguments || usesArguments ⟨s.segments.toList⟩)

theorem Follows.push (h : Follows t s s') (c : Char) :
    Follows t { s with text := s.text.push c } { s' with text := s'.text.push c } := by
  refine ⟨h.inBraces, fun hin => congrArg (String.push · c) (h.word hin), fun cx => ?_,
    h.usesArguments⟩
  rw [rendered_push, rendered_push, h.rendered, h.inBraces, String.append_assoc]

theorem Follows.openBraces (h : Follows t s s') (hout : s.inBraces = false) :
    Follows t { segments := s.withLiteral, inBraces := true }
      { segments := s'.withLiteral, inBraces := true } := by
  refine ⟨rfl, fun _ => rfl, fun cx => ?_, ?_⟩
  · have hrendered := h.rendered cx
    rw [rendered_of_out cx hout, rendered_of_out cx (h.inBraces.trans hout)] at hrendered
    simpa [Scan.rendered] using hrendered
  · rw [usesArguments_withLiteral, usesArguments_withLiteral]
    exact h.usesArguments

theorem Follows.closeBraces (h : Follows t s s') (hin : s.inBraces = true) (segment : Segment) :
    Follows t { segments := s.segments.push segment } { segments := s'.segments.push segment } := by
  refine ⟨rfl, nofun, fun cx => ?_, ?_⟩
  · have hrendered := h.rendered cx
    simp only [Scan.rendered, h.inBraces, hin, if_true, String.append_empty] at hrendered
    show render cx ⟨(s'.segments.push segment).toList⟩ ++ "" =
      t.render cx ++ (render cx ⟨(s.segments.push segment).toList⟩ ++ "")
    rw [String.append_empty, String.append_empty, render_push, render_push, hrendered,
      String.append_assoc]
  · rw [usesArguments_push, usesArguments_push, h.usesArguments, Bool.or_assoc]

theorem Follows.step (h : Follows t s s') (c : Char) : Alike (Follows t) (s.step c) (s'.step c) := by
  unfold Scan.step
  by_cases hin : s.inBraces = true
  · rw [if_pos hin, if_pos (h.inBraces.trans hin)]
    split_ifs with hopen hclose
    · exact .error _
    · rw [h.word hin]
      cases Segment.ofWord? s.text with
      | none => exact .error _
      | some segment => exact .ok (h.closeBraces hin segment)
    · exact .ok (h.push c)
  · have hin' : ¬ s'.inBraces = true := h.inBraces.symm ▸ hin
    rw [if_neg hin, if_neg hin']
    split_ifs with hopen hclose
    · exact .ok (h.openBraces (Bool.eq_false_iff.2 hin))
    · exact .error _
    · exact .ok (h.push c)

theorem Follows.finish (h : Follows t s s') :
    Alike (fun t₁ t' : Template => (∀ cx, t'.render cx = t.render cx ++ t₁.render cx) ∧
      t'.usesArguments = (t.usesArguments || t₁.usesArguments)) s.finish s'.finish := by
  unfold Scan.finish
  rw [h.inBraces]
  split_ifs with hin
  · exact .error _
  · have hout := Bool.eq_false_iff.2 hin
    refine .ok ⟨fun cx => ?_, ?_⟩
    · rw [← rendered_of_out cx hout, ← rendered_of_out cx (h.inBraces.trans hout)]
      exact h.rendered cx
    · rw [usesArguments_withLiteral, usesArguments_withLiteral]
      exact h.usesArguments

theorem follows_empty (hout : s.inBraces = false) : Follows ⟨s.withLiteral.toList⟩ {} s := by
  refine ⟨hout, nofun, fun cx => ?_, ?_⟩
  · rw [rendered_of_out cx hout]
    exact (String.append_empty).symm
  · rw [usesArguments_withLiteral]
    exact (Bool.or_false _).symm

end Scan

theorem parse_append_eq (a b : String) : parse (a ++ b) =
    a.toList.foldlM Scan.step {} >>= fun s => b.toList.foldlM Scan.step s >>= Scan.finish := by
  rw [parse, String.toList_append, List.foldlM_append]
  cases a.toList.foldlM Scan.step {} <;> rfl

theorem parse_append_alike (ha : parse a = .ok t) :
    Alike (fun t₁ t' : Template => (∀ cx, t'.render cx = t.render cx ++ t₁.render cx) ∧
      t'.usesArguments = (t.usesArguments || t₁.usesArguments)) (parse b) (parse (a ++ b)) := by
  obtain ⟨s, hread, hout, rfl⟩ := exists_scan_of_parse ha
  rw [parse_append_eq, hread]
  exact (Alike.foldlM (Scan.follows_empty hout) fun _ _ c h => h.step c).bind fun _ _ h => h.finish

theorem parse_append_unknown {word : String} (ha : parse a = .error (.unknownPlaceholder word)) :
    parse (a ++ b) = .error (.unknownPlaceholder word) := by
  unfold parse at ha
  rw [parse_append_eq]
  cases hread : a.toList.foldlM Scan.step {} with
  | error e =>
    rw [hread] at ha
    rw [← ha]
    rfl
  | ok s =>
    rw [hread] at ha
    have hfinish : s.finish = .error (.unknownPlaceholder word) := ha
    unfold Scan.finish at hfinish
    split_ifs at hfinish
    cases hfinish

/-- After a template, a text is refused just when it is refused alone, and for the same reason; otherwise
the two together render as the one and then the other, and look at the arguments when one of them does.
An unknown placeholder stays the offence of the whole text, whatever is put after it. -/
theorem parse_append (a b : String) :
    (∀ t, parse a = .ok t →
      (∀ e, parse (a ++ b) = .error e ↔ parse b = .error e) ∧
      ∀ t₁, parse b = .ok t₁ → ∃ t', parse (a ++ b) = .ok t' ∧
        (∀ cx, t'.render cx = t.render cx ++ t₁.render cx) ∧
        t'.usesArguments = (t.usesArguments || t₁.usesArguments)) ∧
    ∀ word, parse a = .error (.unknownPlaceholder word) →
      parse (a ++ b) = .error (.unknownPlaceholder word) := by
  refine ⟨fun t ha => ?_, fun word => parse_append_unknown⟩
  have halike := parse_append_alike (b := b) ha
  generalize parse b = x at halike
  generalize parse (a ++ b) = y at halike
  cases halike with
  | ok h => exact ⟨fun e => ⟨nofun, nofun⟩, fun t₁ ht₁ => ⟨_, rfl, Except.ok.inj ht₁ ▸ h⟩⟩
  | error e => exact ⟨fun e' => Iff.rfl, nofun⟩

/-- Two literals that become one; and a text that would be refused for another reason at its end. -/
theorem parse_append_joined_literal :
    let cx : Context :=
      { name := "Set", namespaceName := "Lib", arguments := ["Int"], fallback := "Dynamic" }
    (∃ t, parse ("Hash" ++ "Set<\x7b0\x7d>") = .ok t ∧ t.render cx = "HashSet<Int>" ∧
      t.usesArguments = true) ∧
    parse ("\x7bkind\x7d" ++ "\x7d") = .error (.unknownPlaceholder "kind") := by
  intro cx
  have ha : parse "Hash" = .ok ⟨[.literal "Hash"]⟩ := rfl
  have hb : parse "Set<\x7b0\x7d>" = .ok ⟨[.literal "Set<", .argument 0, .literal ">"]⟩ := rfl
  obtain ⟨-, happend⟩ := (parse_append "Hash" "Set<\x7b0\x7d>").1 _ ha
  obtain ⟨t, ht, hrender, huses⟩ := happend _ hb
  refine ⟨⟨t, ht, (hrender cx).trans rfl, huses.trans rfl⟩, ?_⟩
  exact (parse_append "\x7bkind\x7d" "\x7d").2 "kind" rfl

end Template
end TypeBridge
