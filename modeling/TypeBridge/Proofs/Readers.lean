import TypeBridge.Proofs.Dependency
import TypeBridge.Proofs.Unfolding

/-!
# Reading the same type in two registries

`SameType r₁ a r₂ b` says that two registries, whatever else they hold, have the same type under the
handles `a` and `b`. Every reader gives the same for both: depth, display form, canonical name, the
arguments (up to their numbering) and, for two mappers that are `Alike`, the outline and with it the
spelling. A reader that follows references is a fold, and `SameType.fold` is the one step for all of
them; the mapper also follows references of the type around, so its induction is over all earlier
handles.
-/

namespace TypeBridge

/-! ### What a layer gives, before and after its references are read -/

section Layers
variable {ρ σ : Type}

theorem Declared.display_map (f : ρ → σ) (text : σ → String) (d : Declared ρ) :
    (d.map f).display text = d.display (text ∘ f) := by
  have hq : (d.map f).qualifier text = d.qualifier (text ∘ f) := by
    cases ho : d.outer <;> simp [qualifier, map, ho]
  have hg : (d.map f).generics text = d.generics (text ∘ f) := by
    simp [generics, map]
  rw [display, display, hq, hg, map]

namespace Form

theorem display_map (f : ρ → σ) (text : σ → String) (form : Form ρ) :
    (form.map f).display text = form.display (text ∘ f) := by
  cases form with
  | record members =>
    have hm : ((members.map fun m => (m.1, f m.2)).map fun m => text m.2 ++ " " ++ m.1) =
        members.map fun m => text (f m.2) ++ " " ++ m.1 := List.map_map ..
    unfold display
    simp only [map, hm, Function.comp_apply]
  | named d | enumeration d | delegate d => exact Declared.display_map f text d
  | _ => rfl

theorem declared?_map (f : ρ → σ) (form : Form ρ) :
    (form.map f).declared? = form.declared?.map (·.map f) := by
  cases form <;> rfl

theorem builtin?_map (f : ρ → σ) (form : Form ρ) : (form.map f).builtin? = form.builtin? := by
  cases form <;> rfl

theorem definition?_map (f : ρ → σ) (form : Form ρ) :
    (form.map f).definition? = form.definition?.map f := by
  cases form <;> simp [definition?, declared?, map, Declared.map]

theorem arguments_map (f : ρ → σ) (form : Form ρ) :
    (form.map f).arguments = form.arguments.map f := by
  cases form <;> simp [arguments, declared?, map, Declared.map]

theorem isGeneric_map (f : ρ → σ) (outerIsGeneric : σ → Bool) (form : Form ρ) :
    (form.map f).isGeneric outerIsGeneric = form.isGeneric (outerIsGeneric ∘ f) := by
  have hany (o : Option ρ) : (o.map f).any outerIsGeneric = o.any (outerIsGeneric ∘ f) := by
    cases o <;> rfl
  cases form <;> simp [isGeneric, declared?, map, Declared.map, hany]

/-- The canonical name of a form, given the names of the types it refers to; `shown` is its display
form, and `bound` whether it stands for more than its own definition. -/
def canonicalName (bound : Bool) (shown : String) : Form String → String
  | .array element => element ++ "[]"
  | .builtin b => b.qualifiedName
  | .nullable _ => "System.Nullable<>"
  | form => if bound then form.definition?.getD shown else shown

end Form
end Layers

namespace Registry
variable {r r₁ r₂ : Registry} {a b h : Handle} {α : Type}

theorem canonicalName_eq_fold (r : Registry) :
    r.canonicalName = r.fold "" fun h d earlier =>
      (d.form.map earlier).canonicalName (r.isBoundGeneric h) (r.display h) := by
  unfold canonicalName
  congr 1
  funext h d earlier
  cases d.form with
  | array | builtin | nullable => rfl
  | parameter | record => cases r.isBoundGeneric h <;> rfl
  | named d | enumeration d =>
    cases r.isBoundGeneric h
    · rfl
    · cases hd : d.definition <;> simp [Form.map, Form.canonicalName, Form.definition?,
        Form.declared?, Declared.map, hd]
  | delegate d params result =>
    cases r.isBoundGeneric h
    · rfl
    · cases hd : d.definition <;> simp [Form.map, Form.canonicalName, Form.definition?,
        Form.declared?, Declared.map, hd]

namespace WellFormed
variable {t : Descriptor Handle}

theorem display_of_get? (hr : r.WellFormed) (ht : r.get? h = some t) :
    r.display h = (t.form.map r.display).display id :=
  hr.fold_eq_layer ht (fun layer => layer.form.display id) fun earlier =>
    (Form.display_map earlier id t.form).symm

theorem canonicalName_of_get? (hr : r.WellFormed) (ht : r.get? h = some t) :
    r.canonicalName h =
      (t.form.map r.canonicalName).canonicalName (r.isBoundGeneric h) (r.display h) := by
  rw [canonicalName_eq_fold]
  exact hr.fold_eq_layer ht (fun layer => layer.form.canonicalName (r.isBoundGeneric h) (r.display h))
    fun _ => rfl

end WellFormed

namespace SameType

variable {d₁ d₂ : Declared Handle}

theorem of_extends {r' : Registry} (hr : r.WellFormed) (hr' : r'.WellFormed) (hx : r.Extends r')
    (hh : h < r.size) : SameType r h r' h :=
  ⟨hr, hr', (hx.unfolding hr hr' hh).symm⟩

/-- A reader that follows references sees the type and not its numbering, if its step does. -/
theorem fold (h : SameType r₁ a r₂ b) {absent : α}
    {step₁ step₂ : Handle → Descriptor Handle → (Handle → α) → α}
    (hstep : ∀ a b d₁ d₂ earlier₁ earlier₂, SameType r₁ a r₂ b →
      Descriptor.map earlier₁ d₁ = Descriptor.map earlier₂ d₂ →
      step₁ a d₁ earlier₁ = step₂ b d₂ earlier₂) :
    r₁.fold absent step₁ a = r₂.fold absent step₂ b := by
  rcases h.get?_cases with ⟨ha, hb⟩ | ⟨d₁, d₂, ha, -, -⟩
  · rw [fold_of_get?_eq_none ha, fold_of_get?_eq_none hb]
  refine h.induction (P := fun a b => r₁.fold absent step₁ a = r₂.fold absent step₂ b)
    (fun a b d₁ d₂ hab hd₁ hd₂ hd ih => ?_) (get?_eq_some_lt ha)
  rw [fold_of_get? hd₁, fold_of_get? hd₂]
  refine hstep a b d₁ d₂ _ _ hab (Descriptor.map_eq_map hd fun c₁ hc₁ c₂ hc₂ hc => ?_)
  have hlt₁ := h.left.references_lt hd₁ c₁ hc₁
  have hlt₂ := h.right.references_lt hd₂ c₂ hc₂
  rw [if_pos hlt₁, if_pos hlt₂, ih c₁ hlt₁ c₂ hlt₂ hc]

theorem form_map {d₁ d₂ : Descriptor Handle} {f₁ f₂ : Handle → α}
    (hd : d₁.map f₁ = d₂.map f₂) : d₁.form.map f₁ = d₂.form.map f₂ :=
  congrArg Descriptor.form hd

theorem depth? (h : SameType r₁ a r₂ b) : r₁.depth? a = r₂.depth? b := by
  rcases h.get?_cases with ⟨ha, hb⟩ | ⟨d₁, d₂, ha, -, -⟩
  · rw [h.left.depth?_eq_none_iff.2 (get?_eq_none_iff.1 ha),
      h.right.depth?_eq_none_iff.2 (get?_eq_none_iff.1 hb)]
  refine h.induction (P := fun a b => r₁.depth? a = r₂.depth? b)
    (fun a b d₁ d₂ _ hd₁ hd₂ hd ih => ?_) (get?_eq_some_lt ha)
  have hof (r : Registry) (d : Descriptor Handle) : r.depthOf d =
      (d.map r.depth?).references.foldl (fun depth c => max depth (c.getD 0 + 1)) 0 := by
    rw [Descriptor.references_map, List.foldl_map, depthOf]
  have hrefs : d₁.map r₁.depth? = d₂.map r₂.depth? :=
    Descriptor.map_eq_map hd fun c₁ hc₁ c₂ hc₂ hc =>
      ih c₁ (h.left.references_lt hd₁ c₁ hc₁) c₂ (h.right.references_lt hd₂ c₂ hc₂) hc
  rw [h.left.depth hd₁, h.right.depth hd₂, hof, hof, hrefs]

theorem isValue (h : SameType r₁ a r₂ b) : r₁.isValue a = r₂.isValue b := by
  unfold Registry.isValue
  rcases h.get?_cases with ⟨ha, hb⟩ | ⟨d₁, d₂, ha, hb, hd⟩
  · rw [ha, hb]
  · rw [ha, hb, Option.any_some, Option.any_some]
    have hv := congrArg Descriptor.isValue hd
    exact hv

theorem isGeneric (h : SameType r₁ a r₂ b) : r₁.isGeneric a = r₂.isGeneric b := by
  refine h.fold fun a b d₁ d₂ e₁ e₂ _ hd => ?_
  have hg := congrArg (Form.isGeneric id) (form_map hd)
  rwa [Form.isGeneric_map, Form.isGeneric_map] at hg

theorem display (h : SameType r₁ a r₂ b) : r₁.display a = r₂.display b := by
  refine h.fold fun a b d₁ d₂ e₁ e₂ _ hd => ?_
  have hg := congrArg (Form.display id) (form_map hd)
  rwa [Form.display_map, Form.display_map] at hg

theorem declared?_map (h : SameType r₁ a r₂ b) :
    ((r₁.get? a).bind (·.form.declared?)).map (·.map r₁.unfolding) =
      ((r₂.get? b).bind (·.form.declared?)).map (·.map r₂.unfolding) := by
  rcases h.get?_cases with ⟨ha, hb⟩ | ⟨d₁, d₂, ha, hb, hd⟩
  · rw [ha, hb]; rfl
  · rw [ha, hb, Option.bind_some, Option.bind_some, ← Form.declared?_map, ← Form.declared?_map,
      form_map hd]

theorem isUnbound (h : SameType r₁ a r₂ b) : r₁.isUnbound a = r₂.isUnbound b := by
  unfold Registry.isUnbound
  rcases option_cases h.declared?_map with ⟨h₁, h₂⟩ | ⟨d₁, d₂, h₁, h₂, hd⟩
  · rw [h₁, h₂]
  · have hb := congrArg Declared.isBound hd
    simp only [Declared.isBound, Declared.map, Option.isSome_map] at hb
    simp only [h₁, h₂, Declared.isBound, hb, h.isGeneric]

theorem isBoundGeneric (h : SameType r₁ a r₂ b) : r₁.isBoundGeneric a = r₂.isBoundGeneric b := by
  rw [Registry.isBoundGeneric, Registry.isBoundGeneric, h.isGeneric, h.isUnbound]

theorem canonicalName (h : SameType r₁ a r₂ b) : r₁.canonicalName a = r₂.canonicalName b := by
  rw [canonicalName_eq_fold, canonicalName_eq_fold]
  refine h.fold fun a b d₁ d₂ e₁ e₂ hab hd => ?_
  rw [hab.isBoundGeneric, hab.display, form_map hd]

theorem definition?_map (h : SameType r₁ a r₂ b) :
    (r₁.definition? a).map r₁.unfolding = (r₂.definition? b).map r₂.unfolding := by
  unfold definition?
  rcases h.get?_cases with ⟨ha, hb⟩ | ⟨d₁, d₂, ha, hb, hd⟩
  · rw [ha, hb]; rfl
  · rw [ha, hb, Option.bind_some, Option.bind_some, ← Form.definition?_map, ← Form.definition?_map,
      form_map hd]

theorem arguments_map (h : SameType r₁ a r₂ b) :
    (r₁.arguments a).map r₁.unfolding = (r₂.arguments b).map r₂.unfolding := by
  unfold arguments
  rcases h.get?_cases with ⟨ha, hb⟩ | ⟨d₁, d₂, ha, hb, hd⟩
  · rw [ha, hb]; rfl
  · rw [ha, hb]
    show d₁.form.arguments.map _ = d₂.form.arguments.map _
    rw [← Form.arguments_map, ← Form.arguments_map, form_map hd]

theorem borrowed?_map (h₁ : r₁.WellFormed) (h₂ : r₂.WellFormed)
    (hd : d₁.map r₁.unfolding = d₂.map r₂.unfolding) :
    (r₁.borrowed? d₁).map r₁.unfolding = (r₂.borrowed? d₂).map r₂.unfolding := by
  obtain ⟨-, hname, houter, -, -, -⟩ := Declared.mk.inj hd
  unfold borrowed?
  rcases option_cases houter with ⟨ho₁, ho₂⟩ | ⟨o₁, o₂, ho₁, ho₂, ho⟩
  · rw [ho₁, ho₂]
    rfl
  · have hargs := (SameType.mk h₁ h₂ ho).arguments_map
    cases hv : views.lookup d₂.name with
    | none => simp [ho₁, ho₂, hname, hv]
    | some position =>
      have hget := congrArg (·[position]?) hargs
      simpa [ho₁, ho₂, hname, hv] using hget

theorem writtenArguments_map (h : SameType r₁ a r₂ b) :
    (r₁.writtenArguments a).map r₁.unfolding = (r₂.writtenArguments b).map r₂.unfolding := by
  have hborrowed : (((r₁.get? a).bind (·.form.declared?)).bind r₁.borrowed?).map r₁.unfolding =
      (((r₂.get? b).bind (·.form.declared?)).bind r₂.borrowed?).map r₂.unfolding := by
    rcases option_cases h.declared?_map with ⟨h₁, h₂⟩ | ⟨d₁, d₂, h₁, h₂, hd⟩
    · rw [h₁, h₂]
      rfl
    · rw [h₁, h₂]
      exact borrowed?_map h.left h.right hd
  unfold writtenArguments
  rcases option_cases hborrowed with ⟨h₁, h₂⟩ | ⟨c₁, c₂, h₁, h₂, hc⟩
  · simp only [h₁, h₂, h.arguments_map]
  · simp only [h₁, h₂, List.map_singleton, hc]

theorem flatName? (h : SameType r₁ a r₂ b) : r₁.flatName? a = r₂.flatName? b := by
  refine h.fold fun a b d₁ d₂ e₁ e₂ _ hd => ?_
  have hdecl := congrArg Form.declared? (form_map hd)
  rw [Form.declared?_map, Form.declared?_map] at hdecl
  rcases option_cases hdecl with ⟨h₁, h₂⟩ | ⟨d₁, d₂, h₁, h₂, hd⟩
  · simp only [h₁, h₂, Option.map_none]
  · obtain ⟨-, hname, houter, -, -, -⟩ := Declared.mk.inj hd
    have hbind : d₁.outer.bind e₁ = d₂.outer.bind e₂ := by
      rcases option_cases houter with ⟨ho₁, ho₂⟩ | ⟨o₁, o₂, ho₁, ho₂, ho⟩
      · rw [ho₁, ho₂]
        rfl
      · rw [ho₁, ho₂]
        exact ho
    simp only [h₁, h₂, Option.map_some, hname, hbind]

theorem declaredName (h : SameType r₁ a r₂ b) : r₁.declaredName a = r₂.declaredName b := by
  unfold Registry.declaredName
  rcases h.get?_cases with ⟨ha, hb⟩ | ⟨⟨form₁, v₁⟩, ⟨form₂, v₂⟩, ha, hb, hd⟩
  · simp only [ha, hb, h.display]
  have hf : form₁.map r₁.unfolding = form₂.map r₂.unfolding := form_map hd
  cases form₁ <;> cases form₂ <;> simp only [Form.map, reduceCtorEq] at hf <;>
    simp only [ha, hb, h.display]
  case builtin => rw [Form.builtin.inj hf]
  case named =>
    obtain ⟨hns, hname, -, -, -, -⟩ := Declared.mk.inj (Form.named.inj hf)
    rw [h.flatName?, hns, hname]
  case enumeration =>
    obtain ⟨hns, hname, -, -, -, -⟩ := Declared.mk.inj (Form.enumeration.inj hf)
    rw [h.flatName?, hns, hname]
  case delegate =>
    obtain ⟨hns, hname, -, -, -, -⟩ := Declared.mk.inj (Form.delegate.inj hf).1
    rw [h.flatName?, hns, hname]

end SameType
end Registry
end TypeBridge
