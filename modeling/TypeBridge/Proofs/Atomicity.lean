import TypeBridge.Proofs.Construct

/-!
# All or nothing

A construction adds its types at the end of a registry, or it fails and the registry is as it was.
Most constructions read first and intern one descriptor in the end, and interning that fails has added
nothing. `nested` may intern two, the type in the definition and the type itself. It is all or nothing
too: the refusals all come before the first of them is added, and what the second refers to is known by
then, since references point back also where raw descriptors have made the definitions arbitrary.
-/

namespace TypeBridge

open Registry

/-- The step adds to the registry and gives the handle of a type in it, or it fails and leaves the
registry as it is. A handle that it complains about is not in the registry. -/
def Build.AllOrNothing (b : Build Handle) (r : Registry) : Prop :=
  (∃ h r', b.run r = (.ok h, r') ∧ r.Extends r' ∧ h < r'.size) ∨
  ∃ e, b.run r = (.error e, r) ∧ ∀ u, e = .unknown u → u.size = r.size ∧ r.get? u.handle = none

namespace Registry

variable {r r' : Registry} {h definition : Handle} {t : Descriptor Handle} {d : Declared Handle}
  {arguments : List Handle}

theorem get?_eq_none_of_firstUnknown? (hr : r.WellFormed) (hu : r.firstUnknown? t = some h) :
    r.get? h = none := by
  have hsize := List.find?_some hu
  rw [hr.depths_size] at hsize
  exact get?_eq_none_iff.2 (of_decide_eq_true hsize)

theorem firstUnknown?_append (hr : r.WellFormed) {before after : List Handle}
    (hrefs : t.references = before ++ h :: after) (hknown : ∀ b ∈ before, b < r.size)
    (hh : r.size ≤ h) : r.firstUnknown? t = some h := by
  rw [firstUnknown?, hr.depths_size, hrefs, List.find?_eq_some_iff_append]
  exact ⟨decide_eq_true hh, before, after, rfl, fun b hb => by simpa using hknown b hb⟩

/-- A descriptor that the registry holds refers to known types only, so looking it up first does not
hide that a reference is unknown. -/
theorem handle?_eq_none_of_firstUnknown? (hr : r.WellFormed) (hu : r.firstUnknown? t = some h) :
    r.handle? t = none := by
  cases hh : r.handle? t with
  | none => rfl
  | some h' =>
    have hknown := hr.references_lt_size (hr.handle?_eq_some_iff.1 hh)
    rw [hr.firstUnknown?_eq_none_iff.2 hknown] at hu
    cases hu

theorem run_intern_of_firstUnknown? (hr : r.WellFormed) (hu : r.firstUnknown? t = some h) :
    (intern t).run r = (.error (.unknown ⟨r.size, h⟩), r) := by
  rw [run_intern, handle?_eq_none_of_firstUnknown? hr hu, hu, hr.depths_size]

theorem intern_allOrNothing (hr : r.WellFormed) (t : Descriptor Handle) :
    (intern t).AllOrNothing r := by
  cases hu : r.firstUnknown? t with
  | none =>
    obtain ⟨h, r', hrun, hget⟩ := exists_run_intern hr (hr.firstUnknown?_eq_none_iff.1 hu)
    have hx := (intern_grows t).extended hr
    rw [hrun] at hx
    exact .inl ⟨h, r', hrun, hx, get?_eq_some_lt hget⟩
  | some c =>
    refine .inr ⟨_, run_intern_of_firstUnknown? hr hu, fun u he => ?_⟩
    obtain rfl := BuildError.unknown.inj he
    exact ⟨rfl, get?_eq_none_of_firstUnknown? hr hu⟩

theorem known_bind_allOrNothing {k : Descriptor Handle → Build Handle}
    (hk : ∀ t, r.get? h = some t → (k t).AllOrNothing r) : (known h >>= k).AllOrNothing r := by
  unfold Build.AllOrNothing
  rw [Build.run_bind]
  cases ht : r.get? h with
  | some t =>
    rw [run_known_of_get? ht]
    exact hk t ht
  | none =>
    rw [run_known_of_get?_eq_none ht]
    refine .inr ⟨_, rfl, fun u he => ?_⟩
    obtain rfl := BuildError.unknown.inj he
    exact ⟨rfl, ht⟩

theorem throw_allOrNothing {e : Registry → BuildError} (he : ∀ u, e r ≠ .unknown u) :
    (do throw (e (← get)) : Build Handle).AllOrNothing r :=
  .inr ⟨e r, rfl, fun u hu => absurd hu (he u)⟩

theorem bound_ne_unknown (u : UnknownHandle) :
    r.bound definition d arguments ≠ .error (.unknown u) := by
  unfold bound
  split_ifs <;> simp

theorem bind_bind_allOrNothing {k : Declared Handle → Build Handle}
    (hk : ∀ d', (k d').AllOrNothing r) : (bind definition d arguments >>= k).AllOrNothing r := by
  unfold Build.AllOrNothing
  rw [Build.run_bind, run_bind]
  cases hb : r.bound definition d arguments with
  | ok d' => exact hk d'
  | error e => exact .inr ⟨e, rfl, fun u he => absurd (he ▸ hb) (bound_ne_unknown u)⟩

theorem nested_allOrNothing (hr : r.WellFormed) (outer : Handle) (name : String) (arity : Nat)
    (isValue : Bool) : (nested outer name arity isValue).AllOrNothing r := by
  induction outer using Nat.strongRecOn with
  | ind outer ih =>
    rw [nested]
    refine known_bind_allOrNothing fun t ht => ?_
    cases hform : t.form with
    | named around =>
      cases hb : around.definition with
      | none =>
        simp only [hb]
        exact intern_allOrNothing hr _
      | some u =>
        have hu : u < outer := hr.references_lt ht u (by
          simp [Descriptor.references, hform, Form.references, Declared.references, hb])
        simp only [hb, dif_pos hu]
        unfold Build.AllOrNothing
        rw [Build.run_bind, map_eq_pure_bind, Build.run_bind]
        rcases ih u hu with ⟨h, r', hrun, hx, hh⟩ | ⟨e, hrun, he⟩
        · -- the type in the definition is there now, and the type around was there before
          have hknown : ∀ c ∈ (around.inside outer name arity (some h)).references, c < r'.size := by
            intro c hc
            rw [Declared.references_inside, Option.toList_some, List.mem_pair] at hc
            rcases hc with rfl | rfl
            · exact Nat.lt_of_lt_of_le (get?_eq_some_lt ht) hx.size_le
            · exact hh
          have hr' := (nested_grows u name arity isValue).wellFormed hr
          rw [hrun] at hr' ⊢
          obtain ⟨h', r'', hrun', hget⟩ := exists_run_intern hr'
            (t := ⟨.named (around.inside outer name arity (some h)), isValue⟩) hknown
          have hx' := (intern_grows
            ⟨.named (around.inside outer name arity (some h)), isValue⟩).extended hr'
          rw [hrun'] at hx'
          exact .inl ⟨h', r'', hrun', hx.trans hx', get?_eq_some_lt hget⟩
        · rw [hrun]
          exact .inr ⟨e, rfl, he⟩
    | _ => exact throw_allOrNothing fun u => by simp

theorem instantiate_allOrNothing (hr : r.WellFormed) (definition : Handle)
    (arguments : List Handle) : (instantiate definition arguments).AllOrNothing r := by
  refine known_bind_allOrNothing fun t _ => ?_
  split
  · refine bind_bind_allOrNothing fun d => ?_
    split <;> exact intern_allOrNothing hr _
  · exact throw_allOrNothing fun u => by simp

theorem instantiateDelegate_allOrNothing (hr : r.WellFormed) (definition : Handle)
    (arguments params : List Handle) (result : Handle) :
    (instantiateDelegate definition arguments params result).AllOrNothing r := by
  refine known_bind_allOrNothing fun t _ => ?_
  split
  · exact bind_bind_allOrNothing fun d => intern_allOrNothing hr _
  · exact throw_allOrNothing fun u => by simp

end Registry

theorem Construction.perform_allOrNothing (c : Construction) {r : Registry} (hr : r.WellFormed) :
    c.perform.AllOrNothing r := by
  cases c with
  | nested outer name arity isValue => exact nested_allOrNothing hr outer name arity isValue
  | instantiate definition arguments => exact instantiate_allOrNothing hr definition arguments
  | instantiateDelegate definition arguments params result =>
    exact instantiateDelegate_allOrNothing hr definition arguments params result
  | _ => exact intern_allOrNothing hr _

namespace Registry

variable {r r' : Registry}

/-- The second registry is the first with the types added at its end. Each has got a depth, and the index
has all that it had and the added types at their positions. -/
structure Appended (r : Registry) (added : Array (Descriptor Handle)) (r' : Registry) : Prop where
  types : r'.types = r.types ++ added
  depths : ∃ depths, depths.size = added.size ∧ r'.depths = r.depths ++ depths
  index : ∀ {d h}, r'.handle? d = some h ↔
    r.handle? d = some h ∨ ∃ i, added[i]? = some d ∧ h = r.size + i

theorem eq_append_of_prefix {α : Type} {xs ys : Array α} (hx : xs.toList <+: ys.toList) :
    ∃ added, ys = xs ++ added := by
  obtain ⟨added, hadded⟩ := hx
  exact ⟨added.toArray, Array.toList_inj.1 (by simpa using hadded.symm)⟩

theorem Extends.exists_appended (hx : r.Extends r') (hr : r.WellFormed) (hr' : r'.WellFormed) :
    ∃ added, r.Appended added r' := by
  obtain ⟨added, htypes⟩ := eq_append_of_prefix hx.types
  obtain ⟨depths, hdepths⟩ := eq_append_of_prefix hx.depths
  refine ⟨added, htypes, ⟨depths, ?_, hdepths⟩, fun {d h} => ?_⟩
  · have hsize := hr'.depths_size
    rw [hdepths, Array.size_append, hr.depths_size, size, size, htypes, Array.size_append] at hsize
    exact Nat.add_left_cancel hsize
  · have hget : r'.get? h = if h < r.size then r.get? h else added[h - r.size]? := by
      rw [Registry.get?, htypes, Array.getElem?_append]
      rfl
    rw [hr'.handle?_eq_some_iff, hr.handle?_eq_some_iff, hget]
    split_ifs with hh
    · refine ⟨.inl, ?_⟩
      rintro (hd | ⟨i, -, rfl⟩)
      · exact hd
      · exact absurd hh (Nat.not_lt.2 (Nat.le_add_right r.size i))
    · refine ⟨fun hd => .inr ⟨h - r.size, hd, (Nat.add_sub_cancel' (Nat.not_lt.1 hh)).symm⟩, ?_⟩
      rintro (hd | ⟨i, hd, rfl⟩)
      · exact absurd (get?_eq_some_lt hd) hh
      · rwa [Nat.add_sub_cancel_left]

/-- Whatever it is given, a construction gives a handle, and the registry has got some more types at its
end or none; or it fails, and the registry is what it was. Handles that are complained about are not in
the registry. Interning fails just when a reference is unknown, and complains about the first one. -/
theorem construct_all_or_nothing (hr : r.Reachable) :
    (∀ c : Construction,
      (∃ h added r', c.perform.run r = (.ok h, r') ∧ r.Appended added r') ∨
      ∃ e, c.perform.run r = (.error e, r) ∧
        ∀ u, e = .unknown u → u.size = r.size ∧ r.get? u.handle = none) ∧
    ∀ t : Descriptor Handle,
      ((∃ e r', (intern t).run r = (.error e, r')) ↔ ∃ c ∈ t.references, r.get? c = none) ∧
      ∀ before c after, t.references = before ++ c :: after →
        (∀ b ∈ before, r.get? b ≠ none) → r.get? c = none →
        (intern t).run r = (.error (.unknown ⟨r.size, c⟩), r) := by
  have hwf := hr.wellFormed
  refine ⟨fun c => ?_, fun t => ⟨⟨fun ⟨e, r', hrun⟩ => ?_, fun ⟨c, hc, hnone⟩ => ?_⟩,
    fun before c after hrefs hknown hc => ?_⟩⟩
  · rcases c.perform_allOrNothing hwf with ⟨h, r', hrun, hx, -⟩ | hfail
    · obtain ⟨added, hadded⟩ := hx.exists_appended hwf (c.wellFormed_of_run hwf hrun)
      exact .inl ⟨h, added, r', hrun, hadded⟩
    · exact .inr hfail
  · by_contra hall
    obtain ⟨h, r'', hok, -⟩ := exists_run_intern hwf (t := t) fun c hc =>
      Nat.lt_of_not_le fun hle => hall ⟨c, hc, get?_eq_none_iff.2 hle⟩
    rw [hok] at hrun
    cases hrun
  · cases hu : r.firstUnknown? t with
    | some c' => exact ⟨_, r, run_intern_of_firstUnknown? hwf hu⟩
    | none =>
      have hlt := hwf.firstUnknown?_eq_none_iff.1 hu c hc
      exact absurd (get?_eq_none_iff.1 hnone) (Nat.not_le.2 hlt)
  · refine run_intern_of_firstUnknown? hwf (firstUnknown?_append hwf hrefs (fun b hb => ?_) ?_)
    · exact Nat.lt_of_not_le fun hle => hknown b hb (get?_eq_none_iff.2 hle)
    · exact get?_eq_none_iff.1 hc

/-- A type with a definition that it cannot have, made from a raw descriptor: nothing can be declared in
it. A delegate with two unknown parameters before an unknown result is refused for the first. -/
theorem construct_all_or_nothing_broken_definition :
    let r := ofConstructions [.builtin .int32,
      .raw ⟨.named { namespaceName := "Lib", name := "Odd", definition := some 0 }, false⟩]
    let delegate : Descriptor Handle :=
      ⟨.delegate { namespaceName := "Lib", name := "Measure" } [0, 9, 7] 8, false⟩
    (nested 1 "Item" 0 false).run r = (.error (.notAContainer "int"), r) ∧
      (intern delegate).run r = (.error (.unknown ⟨2, 9⟩), r) := by
  intro r delegate
  obtain ⟨hall, hintern⟩ := construct_all_or_nothing (r := r) ⟨_, rfl⟩
  have hfails : ((nested 1 "Item" 0 false).run r).1 = .error (.notAContainer "int") := by
    decide +kernel
  constructor
  · rcases hall (.nested 1 "Item" 0 false) with ⟨h, added, r', hrun, -⟩ | ⟨e, hrun, -⟩
    · rw [show (nested 1 "Item" 0 false).run r = _ from hrun] at hfails
      cases hfails
    · rw [show (nested 1 "Item" 0 false).run r = _ from hrun] at hfails ⊢
      rw [show Except.error e = _ from hfails]
  · have hsize : r.size = 2 := by decide +kernel
    rw [← hsize]
    exact (hintern delegate).2 [0] 9 [7, 8] rfl (by decide +kernel) (by decide +kernel)

end Registry
end TypeBridge
