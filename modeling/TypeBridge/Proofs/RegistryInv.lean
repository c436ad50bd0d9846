import Mathlib.Data.List.Basic
import Mathlib.Tactic.Common
import TypeBridge.Source.Construction

/-!
# What constructions keep

`WellFormed` is what every construction keeps, whatever it is given. It ties the three stores of a registry
together: the index has each descriptor at its position, so none is held twice, and beside each stands its
depth, one more than that of its deepest reference. And references point back. A registry only grows, at
its end: `Extends` says that the types of one registry are in another with the handles and depths that they
have in the first, and are found there.

Both are shown for whole steps. `Build.Grows` holds of a step that extends a well-formed registry to
a well-formed one and that, once it has given a result, gives it again on every later registry and
adds nothing. It passes from `intern` through sequencing to all constructions.
-/

namespace TypeBridge

namespace Registry

variable {r r' r'' : Registry} {h : Handle} {d : Descriptor Handle} {n : Nat}

theorem get?_eq_some_lt (hd : r.get? h = some d) : h < r.size := by
  by_contra hh
  rw [get?_eq_none_iff.2 (Nat.le_of_not_lt hh)] at hd
  cases hd

theorem exists_get?_of_lt (hh : h < r.size) : ∃ d, r.get? h = some d := by
  cases hd : r.get? h with
  | some d => exact ⟨d, rfl⟩
  | none => exact absurd (get?_eq_none_iff.1 hd) (Nat.not_le.2 hh)

theorem get?_size (r : Registry) : r.get? r.size = none :=
  get?_eq_none_iff.2 (Nat.le_refl r.size)

/-! ### The invariant -/

structure WellFormed (r : Registry) : Prop where
  /-- Each type has a depth beside it. -/
  depths_size : r.depths.size = r.size
  /-- The index has the types at their positions, and no others. -/
  handle?_eq_some_iff : ∀ {d h}, r.handle? d = some h ↔ r.get? h = some d
  /-- References point back. -/
  references_lt : ∀ {h d}, r.get? h = some d → ∀ c ∈ d.references, c < h
  /-- The depth that is held is the one that the references give. -/
  depth : ∀ {h d}, r.get? h = some d → r.depth? h = some (r.depthOf d)

namespace WellFormed

theorem unique (hr : r.WellFormed) (hd : r.get? h = some d) (hd' : r.get? h' = some d) : h = h' :=
  Option.some.inj ((hr.handle?_eq_some_iff.2 hd).symm.trans (hr.handle?_eq_some_iff.2 hd'))

theorem get?_ne_of_handle?_eq_none (hr : r.WellFormed) (hd : r.handle? d = none) (h : Handle) :
    r.get? h ≠ some d := by
  rw [ne_eq, ← hr.handle?_eq_some_iff, hd]
  exact nofun

theorem references_lt_size (hr : r.WellFormed) (hd : r.get? h = some d) :
    ∀ c ∈ d.references, c < r.size :=
  fun c hc => Nat.lt_trans (hr.references_lt hd c hc) (get?_eq_some_lt hd)

theorem depth?_eq_none_iff (hr : r.WellFormed) : r.depth? h = none ↔ r.size ≤ h := by
  rw [← hr.depths_size]
  exact Array.getElem?_eq_none_iff

theorem exists_depth?_of_lt (hr : r.WellFormed) (hh : h < r.size) :
    ∃ depth, r.depth? h = some depth :=
  have ⟨d, hd⟩ := exists_get?_of_lt hh
  ⟨r.depthOf d, hr.depth hd⟩

theorem lt_size_of_depth? (hr : r.WellFormed) {depth : Nat} (hn : r.depth? h = some depth) :
    h < r.size := by
  by_contra hh
  rw [hr.depth?_eq_none_iff.2 (Nat.le_of_not_lt hh)] at hn
  cases hn

theorem firstUnknown?_eq_none_iff (hr : r.WellFormed) :
    r.firstUnknown? d = none ↔ ∀ c ∈ d.references, c < r.size := by
  simp [firstUnknown?, List.find?_eq_none, hr.depths_size]

theorem empty : WellFormed Registry.empty := by
  constructor <;> simp [get?, handle?, size, Registry.empty]

end WellFormed

/-! ### Growth -/

/-- The types of `r` are in `r'`, with the same handles and depths, and are found there. -/
structure Extends (r r' : Registry) : Prop where
  types : r.types.toList <+: r'.types.toList
  depths : r.depths.toList <+: r'.depths.toList
  index : ∀ {d h}, r.handle? d = some h → r'.handle? d = some h

namespace Extends

theorem refl (r : Registry) : Extends r r :=
  ⟨List.prefix_refl _, List.prefix_refl _, id⟩

theorem trans (h : Extends r r') (h' : Extends r' r'') : Extends r r'' :=
  ⟨h.types.trans h'.types, h.depths.trans h'.depths, h'.index ∘ h.index⟩

theorem push (hnew : r.handle? d = none) : Extends r (r.push d) where
  types := ⟨[d], by simp [Registry.push]⟩
  depths := ⟨[r.depthOf d], by simp [Registry.push]⟩
  index {e h} he := by
    rw [handle?_push, if_neg, he]
    rintro rfl
    rw [hnew] at he
    cases he

theorem size_le (hr : Extends r r') : r.size ≤ r'.size := by
  simpa [size] using hr.types.length_le

theorem getElem?_of_prefix {α : Type} {xs ys : Array α} {a : α} (hx : xs.toList <+: ys.toList)
    (ha : xs[n]? = some a) : ys[n]? = some a := by
  obtain ⟨hn, rfl⟩ := Array.getElem?_eq_some_iff.1 ha
  rw [← Array.getElem?_toList]
  exact List.prefix_iff_getElem?.1 hx n hn

theorem get?_of_some (hr : Extends r r') (hd : r.get? h = some d) : r'.get? h = some d :=
  getElem?_of_prefix hr.types hd

theorem depth?_of_some (hr : Extends r r') (hn : r.depth? h = some n) : r'.depth? h = some n :=
  getElem?_of_prefix hr.depths hn

theorem get? (hr : Extends r r') (hh : h < r.size) : r'.get? h = r.get? h := by
  obtain ⟨d, hd⟩ := exists_get?_of_lt hh
  rw [hd, hr.get?_of_some hd]

theorem depthOf (hx : Extends r r') (hr : r.WellFormed) (hd : ∀ c ∈ d.references, c < r.size) :
    r'.depthOf d = r.depthOf d := by
  unfold Registry.depthOf
  refine List.foldl_ext _ _ _ fun depth c hc => ?_
  obtain ⟨n, hn⟩ := hr.exists_depth?_of_lt (hd c hc)
  rw [hn, hx.depth?_of_some hn]

end Extends

theorem WellFormed.push (hr : r.WellFormed) (hnew : r.handle? d = none)
    (hd : ∀ c ∈ d.references, c < r.size) : (r.push d).WellFormed := by
  have hx : r.Extends (r.push d) := .push hnew
  refine ⟨?depths_size, fun {e h} => ?index, fun {h e} he c hc => ?references,
    fun {h e} he => ?depth⟩
  case depths_size =>
    rw [size_push, ← hr.depths_size]
    exact Array.size_push ..
  case index =>
    rw [handle?_push, get?_push]
    split_ifs with he hh hh
    · simp [he, hh]
    · subst he
      simp [hr.get?_ne_of_handle?_eq_none hnew h, Ne.symm hh]
    · simp [he, hh, hr.handle?_eq_some_iff, get?_size]
    · exact hr.handle?_eq_some_iff
  case references =>
    rw [get?_push] at he
    split_ifs at he with hh
    · cases he
      exact hh ▸ hd c hc
    · exact hr.references_lt he c hc
  case depth =>
    rw [get?_push] at he
    rw [depth?_push, hr.depths_size]
    split_ifs at he ⊢ with hh
    · cases he
      rw [hx.depthOf hr hd]
    · rw [hr.depth he, hx.depthOf hr (hr.references_lt_size he)]

end Registry

namespace Build

variable {α β : Type}

theorem run_bind (b : Build α) (f : α → Build β) (r : Registry) :
    (b >>= f).run r = match b.run r with
      | (.ok a, r') => (f a).run r'
      | (.error e, r') => (.error e, r') := by
  show (ExceptT.bindCont f (b.run r).1) (b.run r).2 = _
  rcases b.run r with ⟨_ | _, r'⟩ <;> rfl

theorem run_read (f : Registry → Except BuildError α) (r : Registry) :
    (do MonadExcept.ofExcept (f (← get)) : Build α).run r = (f r, r) := by
  show (MonadExcept.ofExcept (f r) : Build α).run r = _
  cases f r <;> rfl

/-- The step only adds to a registry. Once it has given a result, it gives it on every later
registry again and adds nothing there. -/
structure Grows (b : Build α) : Prop where
  extended : ∀ {r : Registry}, r.WellFormed → r.Extends (b.run r).2
  wellFormed : ∀ {r : Registry}, r.WellFormed → (b.run r).2.WellFormed
  repeated : ∀ {r r' r'' : Registry} {a : α}, r.WellFormed → b.run r = (.ok a, r') →
    r'.Extends r'' → r''.WellFormed → b.run r'' = (.ok a, r'')

namespace Grows

theorem read {f : Registry → Except BuildError α}
    (hf : ∀ {r r' : Registry} {a : α}, r.Extends r' → f r = .ok a → f r' = .ok a) :
    Grows (do MonadExcept.ofExcept (f (← get))) := by
  refine ⟨fun {r} _ => ?_, fun {r} hr => ?_, fun {r r' r'' a} _ ha hx _ => ?_⟩
  · rw [run_read]; exact .refl r
  · rw [run_read]; exact hr
  · rw [run_read] at ha ⊢
    obtain ⟨hf', rfl⟩ := Prod.mk.inj ha
    rw [hf hx hf']

theorem pure (a : α) : Grows (Pure.pure a) :=
  read (f := fun _ => .ok a) fun _ h => h

theorem fail (e : Registry → BuildError) : Grows (do throw (e (← get)) : Build α) :=
  read (f := fun r => .error (e r)) fun _ h => by cases h

theorem bind {b : Build α} {f : α → Build β} (hb : Grows b) (hf : ∀ a, Grows (f a)) :
    Grows (b >>= f) := by
  refine ⟨fun {r} hr => ?_, fun {r} hr => ?_, fun {r r' r'' a} hr ha hx hr'' => ?_⟩
  · have hx := hb.extended hr
    have hr' := hb.wellFormed hr
    rw [run_bind]
    rcases hb₁ : b.run r with ⟨_ | a, r'⟩ <;> rw [hb₁] at hx hr'
    · exact hx
    · exact hx.trans ((hf a).extended hr')
  · have hr' := hb.wellFormed hr
    rw [run_bind]
    rcases hb₁ : b.run r with ⟨_ | a, r'⟩ <;> rw [hb₁] at hr'
    · exact hr'
    · exact (hf a).wellFormed hr'
  · have hr₁ := hb.wellFormed hr
    rw [run_bind] at ha ⊢
    rcases hb₁ : b.run r with ⟨_ | a₁, r₁⟩ <;> rw [hb₁] at ha hr₁
    · cases ha
    have hx₁ := (hf a₁).extended hr₁
    have ha : (f a₁).run r₁ = (.ok a, r') := ha
    rw [ha] at hx₁
    rw [hb.repeated hr hb₁ (hx₁.trans hx) hr'']
    exact (hf a₁).repeated hr₁ ha hx hr''

theorem map (f : α → β) {b : Build α} (hb : Grows b) : Grows (f <$> b) := by
  rw [map_eq_pure_bind]
  exact hb.bind fun a => pure (f a)

end Grows
end Build

namespace Registry

variable {r r' : Registry} {h : Handle} {d : Descriptor Handle}

theorem get?_of_run_intern (hr : r.WellFormed) (hh : (intern d).run r = (.ok h, r')) :
    r'.get? h = some d := by
  rw [run_intern] at hh
  cases hd : r.handle? d with
  | some h' =>
    simp only [hd] at hh
    cases hh
    exact hr.handle?_eq_some_iff.1 hd
  | none =>
    simp only [hd] at hh
    cases hu : r.firstUnknown? d <;> simp only [hu] at hh <;> cases hh
    simp [get?_push]

theorem run_intern_of_get? (hr : r.WellFormed) (hd : r.get? h = some d) :
    (intern d).run r = (.ok h, r) := by
  rw [run_intern, hr.handle?_eq_some_iff.2 hd]

open Build

theorem intern_grows (d : Descriptor Handle) : Grows (intern d) := by
  have hrun : ∀ r, r.WellFormed →
      r.Extends ((intern d).run r).2 ∧ ((intern d).run r).2.WellFormed := by
    intro r hr
    rw [run_intern]
    cases hd : r.handle? d with
    | some h => exact ⟨.refl r, hr⟩
    | none =>
      cases hu : r.firstUnknown? d with
      | some c => exact ⟨.refl r, hr⟩
      | none => exact ⟨.push hd, hr.push hd (hr.firstUnknown?_eq_none_iff.1 hu)⟩
  exact ⟨fun hr => (hrun _ hr).1, fun hr => (hrun _ hr).2, fun hr ha hx hr'' =>
    run_intern_of_get? hr'' (hx.get?_of_some (get?_of_run_intern hr ha))⟩

theorem known_grows (h : Handle) : Grows (known h) := by
  refine Grows.read (f := fun r => (r.find h).mapError .unknown) fun {r r' d} hx hd => ?_
  cases hd' : r.get? h with
  | none => simp [find, hd', Except.mapError] at hd
  | some d' => simpa [find, hd', hx.get?_of_some hd', Except.mapError] using hd

/-- Only the words of a failed binding depend on the registry. -/
theorem bound_eq_ok {definition : Handle} {d d' : Declared Handle} {arguments : List Handle}
    (hd : r.bound definition d arguments = .ok d') (r' : Registry) :
    r'.bound definition d arguments = .ok d' := by
  unfold bound at hd ⊢
  split_ifs at hd ⊢
  exact hd

theorem bind_grows (definition : Handle) (d : Declared Handle) (arguments : List Handle) :
    Grows (bind definition d arguments) :=
  Grows.read (f := fun r => r.bound definition d arguments) fun _ hd => bound_eq_ok hd _

theorem nested_grows (outer : Handle) (name : String) (arity : Nat) (isValue : Bool) :
    Grows (nested outer name arity isValue) := by
  induction outer using Nat.strongRecOn with
  | ind outer ih =>
    rw [nested]
    refine (known_grows outer).bind fun found => ?_
    split
    · split
      · split_ifs with hd
        · exact ((ih _ hd).map some).bind fun _ => intern_grows _
        · exact (Grows.pure none).bind fun _ => intern_grows _
      · exact (Grows.pure none).bind fun _ => intern_grows _
    · exact .fail _

theorem instantiate_grows (definition : Handle) (arguments : List Handle) :
    Grows (instantiate definition arguments) := by
  refine (known_grows definition).bind fun found => ?_
  split
  · refine (bind_grows ..).bind fun bound => ?_
    split <;> exact intern_grows _
  · exact .fail _

theorem instantiateDelegate_grows (definition : Handle) (arguments params : List Handle)
    (result : Handle) : Grows (instantiateDelegate definition arguments params result) := by
  refine (known_grows definition).bind fun found => ?_
  split
  · exact (bind_grows ..).bind fun bound => intern_grows _
  · exact .fail _

end Registry

namespace Construction

theorem perform_grows (c : Construction) : Build.Grows c.perform := by
  cases c with
  | nested outer name arity isValue => exact Registry.nested_grows ..
  | instantiate definition arguments => exact Registry.instantiate_grows ..
  | instantiateDelegate definition arguments params result =>
    exact Registry.instantiateDelegate_grows ..
  | _ => exact Registry.intern_grows _

theorem extends_after (c : Construction) {r : Registry} (hr : r.WellFormed) :
    r.Extends (c.after r) :=
  c.perform_grows.extended hr

theorem wellFormed_after (c : Construction) {r : Registry} (hr : r.WellFormed) :
    (c.after r).WellFormed :=
  c.perform_grows.wellFormed hr

theorem wellFormed_of_run (c : Construction) {r r' : Registry} {found : Except BuildError Handle}
    (hr : r.WellFormed) (hrun : c.perform.run r = (found, r')) : r'.WellFormed := by
  have hafter : c.after r = r' := congrArg Prod.snd hrun
  exact hafter ▸ c.wellFormed_after hr

end Construction

namespace Registry

def afterAll (r : Registry) (cs : List Construction) : Registry :=
  cs.foldl (fun r c => c.after r) r

theorem afterAll_grows {r : Registry} (hr : r.WellFormed) (cs : List Construction) :
    r.Extends (r.afterAll cs) ∧ (r.afterAll cs).WellFormed := by
  induction cs generalizing r with
  | nil => exact ⟨.refl r, hr⟩
  | cons c cs ih =>
    obtain ⟨hx, hr'⟩ := ih (c.wellFormed_after hr)
    exact ⟨(c.extends_after hr).trans hx, hr'⟩

theorem ofConstructions_append (cs cs' : List Construction) :
    ofConstructions (cs ++ cs') = (ofConstructions cs).afterAll cs' :=
  List.foldl_append

def Reachable (r : Registry) : Prop :=
  ∃ cs, r = ofConstructions cs

theorem Reachable.wellFormed {r : Registry} (hr : r.Reachable) : r.WellFormed := by
  obtain ⟨cs, rfl⟩ := hr
  exact (afterAll_grows .empty cs).2

theorem Reachable.after {r : Registry} (hr : r.Reachable) (c : Construction) :
    (c.after r).Reachable := by
  obtain ⟨cs, rfl⟩ := hr
  exact ⟨cs ++ [c], (ofConstructions_append cs [c]).symm⟩

end Registry
end TypeBridge
