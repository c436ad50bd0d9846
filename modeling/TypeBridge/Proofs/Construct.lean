import TypeBridge.Proofs.Declaration

/-!
# What a construction comes to

Each construction interns one descriptor, after it has read the types that it is given: `nested` the
type around, whose definition it may have to follow first, and the bindings the declaration of their
definition. The lemmas say which descriptor it is, and that everything else is refused and leaves the
registry as it is.
-/

namespace TypeBridge.Registry

variable {r r' : Registry} {h u outer definition : Handle} {t : Descriptor Handle}
  {d d' around : Declared Handle} {name : String} {arity : Nat} {isValue : Bool}
  {arguments : List Handle}

theorem exists_run_intern (hr : r.WellFormed) (hrefs : ∀ c ∈ t.references, c < r.size) :
    ∃ h r', (intern t).run r = (.ok h, r') ∧ r'.get? h = some t := by
  have hrun := run_intern t r
  have hnone : r.firstUnknown? t = none := hr.firstUnknown?_eq_none_iff.2 hrefs
  cases hh : r.handle? t with
  | some h =>
    simp only [hh] at hrun
    exact ⟨h, r, hrun, get?_of_run_intern hr hrun⟩
  | none =>
    simp only [hh, hnone] at hrun
    exact ⟨r.size, r.push t, hrun, get?_of_run_intern hr hrun⟩

theorem WellFormed.lt_size_of_run_intern (hr : r.WellFormed) (hrun : (intern t).run r = (.ok h, r')) :
    ∀ c ∈ t.references, c < r.size := by
  rw [run_intern] at hrun
  cases hh : r.handle? t with
  | some h => exact hr.references_lt_size (hr.handle?_eq_some_iff.1 hh)
  | none =>
    cases hu : r.firstUnknown? t with
    | some c =>
      simp only [hh, hu] at hrun
      cases hrun
    | none => exact hr.firstUnknown?_eq_none_iff.1 hu

theorem run_known (h : Handle) (r : Registry) :
    (known h).run r = ((r.find h).mapError .unknown, r) :=
  Build.run_read (fun r => (r.find h).mapError .unknown) r

theorem run_known_of_get? (ht : r.get? h = some t) : (known h).run r = (.ok t, r) := by
  rw [run_known, find, ht]
  rfl

theorem run_known_of_get?_eq_none (ht : r.get? h = none) :
    (known h).run r = (.error (.unknown ⟨r.size, h⟩), r) := by
  rw [run_known, find, ht]
  rfl

theorem run_nested_of_unbound (hf : r.form? outer = some (.named around))
    (hb : around.definition = none) :
    (nested outer name arity isValue).run r =
      (intern ⟨.named (around.inside outer name arity none), isValue⟩).run r := by
  obtain ⟨t, ht, hform⟩ := form?_eq_some hf
  rw [nested, Build.run_bind, run_known_of_get? ht]
  simp only [hform, hb]
  rfl

theorem run_nested_of_bound (hf : r.form? outer = some (.named around))
    (hb : around.definition = some u) (hu : u < outer)
    (hrun : (nested u name arity isValue).run r = (.ok h, r')) :
    (nested outer name arity isValue).run r =
      (intern ⟨.named (around.inside outer name arity (some h)), isValue⟩).run r' := by
  obtain ⟨t, ht, hform⟩ := form?_eq_some hf
  rw [nested, Build.run_bind, run_known_of_get? ht]
  simp only [hform, hb, dif_pos hu]
  rw [Build.run_bind, map_eq_pure_bind, Build.run_bind, hrun]
  rfl

theorem run_nested_of_not_named (hf : ∀ around, r.form? outer ≠ some (.named around)) :
    ∃ e, (nested outer name arity isValue).run r = (.error e, r) := by
  rw [nested, Build.run_bind]
  cases ht : r.get? outer with
  | none =>
    rw [run_known_of_get?_eq_none ht]
    exact ⟨_, rfl⟩
  | some t =>
    rw [run_known_of_get? ht]
    cases hform : t.form with
    | named around => exact absurd (by rw [form?_of_get? ht, hform]) (hf around)
    | _ => exact ⟨_, by simp only [hform]; rfl⟩

theorem bound_eq_ok_iff : r.bound definition d arguments = .ok d' ↔
    (0 < d.arity ∧ d.arguments = [] ∧ arguments.length = d.arity) ∧
      d' = { d with arguments, definition := some (d.definition.getD definition) } := by
  have hgeneric : (decide (d.arity = 0) || !d.arguments.isEmpty) = true ↔
      ¬ (0 < d.arity ∧ d.arguments = []) := by
    simp only [Bool.or_eq_true, decide_eq_true_eq, Bool.not_eq_true', List.isEmpty_eq_false_iff]
    rw [not_and_or, Nat.not_lt, Nat.le_zero]
  unfold bound
  by_cases hg : 0 < d.arity ∧ d.arguments = []
  · rw [if_neg fun h => hgeneric.1 h hg]
    split_ifs with hlength
    · exact ⟨fun hd => (by cases hd), fun hd => absurd hd.1.2.2.symm hlength⟩
    · refine ⟨fun hd => ⟨⟨hg.1, hg.2, (not_not.1 hlength).symm⟩, (Except.ok.inj hd).symm⟩, ?_⟩
      exact fun hd => congrArg Except.ok hd.2.symm
  · rw [if_pos (hgeneric.2 hg)]
    exact ⟨fun hd => (by cases hd), fun hd => absurd ⟨hd.1.1, hd.1.2.1⟩ hg⟩

theorem arguments_ne_nil_of_bound (hb : r.bound definition d arguments = .ok d') :
    d'.arguments ≠ [] := by
  obtain ⟨⟨harity, -, hlength⟩, rfl⟩ := bound_eq_ok_iff.1 hb
  exact List.length_pos_iff.1 (hlength ▸ harity)

/-- The descriptor of a named type with its parameters bound. The optional values have a form of
their own. -/
def boundDescriptor (d : Declared Handle) (isValue : Bool) : Descriptor Handle :=
  match d.isNullable, d.arguments with
  | true, [inner] => ⟨.nullable inner, true⟩
  | _, _ => ⟨.named d, isValue⟩

theorem boundDescriptor_of_not_isNullable (hn : d.isNullable = false) :
    boundDescriptor d isValue = ⟨.named d, isValue⟩ := by
  rw [boundDescriptor, hn]

/-- A binding comes to an optional value just when it binds the generic type of these. -/
theorem boundDescriptor_cases (hb : r.bound definition d arguments = .ok d') :
    (d.isNullable = true ∧ ∃ x, arguments = [x] ∧
      ∀ isValue, boundDescriptor d' isValue = ⟨.nullable x, true⟩) ∨
    d.isNullable = false ∧ ∀ isValue, boundDescriptor d' isValue = ⟨.named d', isValue⟩ := by
  obtain ⟨⟨-, -, hlength⟩, rfl⟩ := bound_eq_ok_iff.1 hb
  cases hn : d.isNullable with
  | false => exact .inr ⟨rfl, fun _ => boundDescriptor_of_not_isNullable hn⟩
  | true =>
    have harity : d.arity = 1 := by
      simp only [Declared.isNullable, Bool.and_eq_true, decide_eq_true_eq] at hn
      exact hn.1.1.2
    obtain ⟨x, rfl⟩ := List.length_eq_one_iff.1 (hlength.trans harity)
    refine .inl ⟨rfl, x, rfl, fun isValue => ?_⟩
    have hn' : { d with arguments := [x], definition := some (d.definition.getD definition) }.isNullable =
        true := hn
    rw [boundDescriptor, hn']

theorem mem_references_of_boundDescriptor {c : Handle}
    (hc : c ∈ (boundDescriptor d isValue).references) : c ∈ d.references := by
  unfold boundDescriptor at hc
  split at hc
  next inner _ hargs =>
    refine Declared.mem_references_iff.2 (.inl ?_)
    rwa [hargs]
  next => exact hc

theorem mem_references_boundDescriptor (hb : r.bound definition d arguments = .ok d') {c : Handle}
    (hc : c ∈ arguments) : c ∈ (boundDescriptor d' isValue).references := by
  rcases boundDescriptor_cases hb with ⟨-, x, rfl, hdesc⟩ | ⟨-, hdesc⟩
  · rw [hdesc]
    exact hc
  · rw [hdesc]
    obtain ⟨-, rfl⟩ := bound_eq_ok_iff.1 hb
    exact Declared.mem_references_iff.2 (.inl hc)

theorem WellFormed.lt_size_of_boundDescriptor (hr : r.WellFormed)
    (ht : r.get? definition = some ⟨.named d, isValue⟩) (hb : r.bound definition d arguments = .ok d')
    (hargs : ∀ c ∈ arguments, c < r.size) :
    ∀ c ∈ (boundDescriptor d' isValue).references, c < r.size := by
  intro c hc
  have hc : c ∈ d'.references := mem_references_of_boundDescriptor hc
  obtain ⟨-, rfl⟩ := bound_eq_ok_iff.1 hb
  have hrefs : ∀ c ∈ d.references, c < r.size := hr.references_lt_size ht
  rcases Declared.mem_references_iff.1 hc with hc | hc | hc
  · exact hargs c hc
  · exact hrefs c (Declared.mem_references_of_outer hc)
  · obtain rfl := Option.some.inj hc
    cases hu : d.definition with
    | none => exact get?_eq_some_lt ht
    | some u => exact hrefs u (Declared.mem_references_of_definition hu)

theorem intern_boundDescriptor (d : Declared Handle) (isValue : Bool) :
    intern (boundDescriptor d isValue) =
      match d.isNullable, d.arguments with
      | true, [inner] => nullable inner
      | _, _ => intern ⟨.named d, isValue⟩ := by
  unfold boundDescriptor
  split <;> rfl

theorem run_bind (definition : Handle) (d : Declared Handle) (arguments : List Handle)
    (r : Registry) :
    (bind definition d arguments).run r = (r.bound definition d arguments, r) :=
  Build.run_read (fun r => r.bound definition d arguments) r

theorem run_instantiate_of_bound (ht : r.get? definition = some ⟨.named d, isValue⟩)
    (hb : r.bound definition d arguments = .ok d') :
    (instantiate definition arguments).run r = (intern (boundDescriptor d' isValue)).run r := by
  rw [instantiate, Build.run_bind, run_known_of_get? ht]
  simp only [Build.run_bind, run_bind, hb]
  exact congrArg (fun b : Build Handle => b.run r) (intern_boundDescriptor d' isValue).symm

/-- A binding is refused, or comes to one descriptor. -/
theorem run_instantiate (definition : Handle) (arguments : List Handle) (r : Registry) :
    (∃ e, (instantiate definition arguments).run r = (.error e, r)) ∨
    ∃ d d' isValue, r.get? definition = some ⟨.named d, isValue⟩ ∧
      r.bound definition d arguments = .ok d' ∧
      (instantiate definition arguments).run r = (intern (boundDescriptor d' isValue)).run r := by
  cases ht : r.get? definition with
  | none =>
    rw [instantiate, Build.run_bind, run_known_of_get?_eq_none ht]
    exact .inl ⟨_, rfl⟩
  | some t =>
    obtain ⟨form, isValue⟩ := t
    cases form with
    | named d =>
      cases hb : r.bound definition d arguments with
      | error e =>
        rw [instantiate, Build.run_bind, run_known_of_get? ht]
        simp only [Build.run_bind, run_bind, hb]
        exact .inl ⟨e, rfl⟩
      | ok d' => exact .inr ⟨d, d', isValue, rfl, hb, run_instantiate_of_bound ht hb⟩
    | _ =>
      rw [instantiate, Build.run_bind, run_known_of_get? ht]
      exact .inl ⟨_, rfl⟩

theorem run_instantiateDelegate (definition : Handle) (arguments params : List Handle)
    (result : Handle) (r : Registry) :
    (∃ e, (instantiateDelegate definition arguments params result).run r = (.error e, r)) ∨
    ∃ d d' ps res isValue, r.get? definition = some ⟨.delegate d ps res, isValue⟩ ∧
      r.bound definition d arguments = .ok d' ∧
      (instantiateDelegate definition arguments params result).run r =
        (intern ⟨.delegate d' params result, false⟩).run r := by
  rw [instantiateDelegate, Build.run_bind]
  cases ht : r.get? definition with
  | none => exact .inl ⟨_, by rw [run_known_of_get?_eq_none ht]⟩
  | some t =>
    rw [run_known_of_get? ht]
    obtain ⟨form, isValue⟩ := t
    cases form with
    | delegate d ps res =>
      simp only [Build.run_bind, run_bind]
      cases hb : r.bound definition d arguments with
      | error e => exact .inl ⟨e, rfl⟩
      | ok d' => exact .inr ⟨d, d', ps, res, isValue, rfl, hb, rfl⟩
    | _ => exact .inl ⟨_, rfl⟩

end TypeBridge.Registry
