import TypeBridge.Proofs.CanonicalName

/-!
# Recursion without guards

The readers of a registry and the mapper follow a reference only where it leads back, and read something
else where there is no type. Here they are written without both: a reference is followed wherever it
leads, `n` types deep at most, and there is no answer where the registry has no type or the `n` are used
up. In a registry that constructions lead to, all of them answer for every type as soon as `n` is greater
than its handle, and they answer what the guarded ones do (`answers_of_reachable`). So the guards are
never met, however odd the descriptors are: references lead back, and what is found by way of several
references does as well.
-/

namespace TypeBridge
namespace Unguarded

/-! ### The readers -/

def isGeneric (r : Registry) : Nat → Handle → Option Bool
  | 0, _ => none
  | n + 1, h => do
    let t ← r.get? h
    match t.form with
    | .nullable _ => return true
    | form =>
      match form.declared? with
      | none => return false
      | some d =>
        if 0 < d.arity then return true
        else
          match d.outer with
          | none => return false
          | some outer => isGeneric r n outer

def isUnbound (r : Registry) (n : Nat) (h : Handle) : Option Bool := do
  match (← r.get? h).form.declared? with
  | none => return false
  | some d => if d.isBound then return false else isGeneric r n h

def isBoundGeneric (r : Registry) (n : Nat) (h : Handle) : Option Bool := do
  if ← isGeneric r n h then return !(← isUnbound r n h) else return false

def display (r : Registry) : Nat → Handle → Option String
  | 0, _ => none
  | n + 1, h => do
    let t ← r.get? h
    match t.form with
    | .builtin b => return b.display
    | .named d | .enumeration d | .delegate d _ _ =>
      let outer ← d.outer.mapM (display r n)
      let arguments ← d.arguments.mapM (display r n)
      let shown : Declared String :=
        { namespaceName := d.namespaceName, name := d.name, outer, arity := d.arity, arguments }
      return shown.display id
    | .array element => return (← display r n element) ++ "[]"
    | .parameter name => return name
    | .record members =>
      let types ← members.mapM fun m => return (m.1, ← display r n m.2)
      return Form.display id (.record types)
    | .nullable inner => return (← display r n inner) ++ "?"

def canonicalName (r : Registry) : Nat → Handle → Option String
  | 0, _ => none
  | n + 1, h => do
    let t ← r.get? h
    match t.form with
    | .array element => return (← canonicalName r n element) ++ "[]"
    | .builtin b => return b.qualifiedName
    | .nullable _ => return "System.Nullable<>"
    | form =>
      if ← isBoundGeneric r (n + 1) h then
        match form.definition? with
        | some unbound => canonicalName r n unbound
        | none => display r (n + 1) h
      else display r (n + 1) h

def flatName (r : Registry) : Nat → Declared Handle → Option String
  | 0, _ => none
  | n + 1, d => do
    match d.outer with
    | none => return d.name
    | some outer =>
      match (← r.get? outer).form.declared? with
      | none => return d.name
      | some around => return (← flatName r n around) ++ "_" ++ d.name

def declaredName (r : Registry) (n : Nat) (h : Handle) : Option (String × String) := do
  match (← r.get? h).form with
  | .builtin b => return (b.metadataName, b.namespaceName)
  | .named d | .enumeration d | .delegate d _ _ => return (← flatName r n d, d.namespaceName)
  | _ => return (← display r n h, "")

def writtenArguments (r : Registry) (h : Handle) : Option (List Handle) := do
  let form := (← r.get? h).form
  match form.declared? with
  | none => return form.arguments
  | some d =>
    match d.outer, Registry.views.lookup d.name with
    | some outer, some position =>
      match (← r.get? outer).form.arguments[position]? with
      | some argument => return [argument]
      | none => return form.arguments
    | _, _ => return form.arguments

/-! ### The mapper -/

def override (m : Mapper) (n : Nat) (h : Handle) : Option (Option Override) := do
  return m.overrides.lookup (← canonicalName m.registry n h)

def expansion (m : Mapper) (n : Nat) (h : Handle) : Option (Option (Handle × List Handle)) := do
  if (← override m n h).any (·.skipsArguments) then return none
  else if ← isBoundGeneric m.registry n h then
    match (← m.registry.get? h).form.definition?, ← writtenArguments m.registry h with
    | some unbound, first :: rest => return some (unbound, first :: rest)
    | _, _ => return none
  else return none

def namedOutline (m : Mapper) (n : Nat) (h : Handle) : Option (Outline Handle) := do
  match ← expansion m n h with
  | some (unbound, arguments) => return .applied unbound arguments
  | none =>
    match standardSpelling? (← canonicalName m.registry n h) with
    | some s => return .fixed s
    | none =>
      let (name, namespaceName) ← declaredName m.registry n h
      match ← override m n h with
      | some o =>
        let arguments ← if o.rule.usesArguments then writtenArguments m.registry h else pure []
        return .replaced o.rule name namespaceName arguments
      | none => return .fixed (.written (defaultName namespaceName name))

def isByte (m : Mapper) (h : Handle) : Option Bool := do
  return (← m.registry.get? h).form.builtin? = some .byte

def outline (m : Mapper) (n : Nat) (h : Handle) : Option (Outline Handle) := do
  match (← m.registry.get? h).form with
  | .record members => return .fixed (.written (m.nameRecord m.registry h members))
  | .array element =>
    if ← isByte m element then return .fixed (.written Target.bytes) else return .array element
  | .parameter name => return .fixed (.written name)
  | .delegate _ params result => return .function params result
  | .enumeration _ => return .fixed (.written Target.int)
  | .nullable inner => return .nullable inner
  | .builtin _ | .named _ => namedOutline m n h

def remember (m : Mapper) : Nat → Handle → StateT Memo Option Spelling
  | 0, _ => failure
  | n + 1, h => Memo.remember h do
    let o ← (outline m (n + 1) h : StateT Memo Option (Outline Handle))
    let filled ← o.fill fun c => (·.textOr m.fallback) <$> remember m n c
    return filled.spelling m.fallback

def map (m : Mapper) (n : Nat) (h : Handle) : StateT Memo Option (Except MappingError Spelling) := do
  let depth ← (m.registry.depth? h : StateT Memo Option Nat)
  if m.maxDepth < depth then return .error (.depthExceeded m.maxDepth h)
  else return .ok (← remember m n h)

/-! ### What they answer -/

section Lists

variable {α β : Type} {f : α → Option β} {g : α → β}

theorem list_mapM_eq {cs : List α} (h : ∀ c ∈ cs, f c = some (g c)) : cs.mapM f = some (cs.map g) :=
  (mapM_congr h).trans List.mapM_pure

theorem option_mapM_eq {o : Option α} (h : ∀ c ∈ o.toList, f c = some (g c)) :
    o.mapM f = some (o.map g) := by
  cases o with
  | none => rfl
  | some c =>
    rw [Option.mapM_some, h c (List.mem_singleton_self c)]
    rfl

end Lists

section Readers

variable {r : Registry} {n : Nat} {h : Handle} {t : Descriptor Handle} {d : Declared Handle}

/-- What holds of a type as soon as it holds, one less deep, of all earlier types, holds of every type
deeper than its handle. -/
theorem induction {P : Nat → Handle → Prop}
    (step : ∀ n h t, h < n + 1 → r.get? h = some t → (∀ c < h, P n c) → P (n + 1) h)
    (hn : h < n) (hh : h < r.size) : P n h := by
  induction n generalizing h with
  | zero => exact absurd hn (Nat.not_lt_zero h)
  | succ n ih =>
    obtain ⟨t, ht⟩ := Registry.exists_get?_of_lt hh
    exact step n h t hn ht fun c hc =>
      ih (Nat.lt_of_lt_of_le hc (Nat.le_of_lt_succ hn)) (Nat.lt_trans hc hh)

theorem isGeneric_eq (hr : r.WellFormed) (hn : h < n) (hh : h < r.size) :
    isGeneric r n h = some (r.isGeneric h) := by
  refine induction (P := fun n h => isGeneric r n h = some (r.isGeneric h))
    (fun n h ⟨form, isValue⟩ hn ht ih => ?_) hn hh
  have hstep : r.isGeneric h =
      form.isGeneric fun c => if c < h then r.isGeneric c else false := Registry.fold_of_get? ht
  have hdeclared : ∀ d, form.declared? = some d →
      (if 0 < d.arity then some true else
        match d.outer with
        | none => some false
        | some outer => isGeneric r n outer) = some (r.isGeneric h) := by
    intro d hd
    have hd' : r.declared? h = some d := (Registry.declared?_of_get? ht).trans hd
    rw [Registry.isGeneric_of_declared? hr hd']
    by_cases ha : 0 < d.arity
    · simp [ha]
    · cases ho : d.outer with
      | none => simp [ha]
      | some o =>
        simp [ha, ih o (hr.outer_lt hd' ho)]
  rw [isGeneric, ht]
  cases form with
  | named d | enumeration d | delegate d => exact hdeclared d rfl
  | _ => exact congrArg some hstep.symm

theorem isUnbound_eq (hr : r.WellFormed) (hn : h < n) (hh : h < r.size) :
    isUnbound r n h = some (r.isUnbound h) := by
  obtain ⟨t, ht⟩ := Registry.exists_get?_of_lt hh
  unfold isUnbound Registry.isUnbound
  rw [ht, Option.bind_some]
  cases hd : t.form.declared? with
  | none => simp [hd]
  | some d => cases hb : d.isBound <;> simp [hd, hb, isGeneric_eq hr hn hh]

theorem isBoundGeneric_eq (hr : r.WellFormed) (hn : h < n) (hh : h < r.size) :
    isBoundGeneric r n h = some (r.isBoundGeneric h) := by
  rw [isBoundGeneric, isGeneric_eq hr hn hh, isUnbound_eq hr hn hh, Registry.isBoundGeneric]
  cases r.isGeneric h <;> rfl

theorem display_eq (hr : r.WellFormed) (hn : h < n) (hh : h < r.size) :
    display r n h = some (r.display h) := by
  refine induction (P := fun n h => display r n h = some (r.display h))
    (fun n h ⟨form, isValue⟩ hn ht ih => ?_) hn hh
  have hrefs : ∀ c ∈ form.references, display r n c = some (r.display c) := fun c hc =>
    ih c (hr.references_lt ht c hc)
  -- the definition of a type and the signature of a delegate are not shown, and not followed
  have hdeclared : ∀ d : Declared Handle, d.references ⊆ form.references →
      (do
        let outer ← d.outer.mapM (display r n)
        let arguments ← d.arguments.mapM (display r n)
        let shown : Declared String :=
          { namespaceName := d.namespaceName, name := d.name, outer, arity := d.arity, arguments }
        return shown.display id) = some ((d.map r.display).display id) := by
    intro d hd
    rw [option_mapM_eq fun c hc => hrefs c (hd (by simp_all [Declared.references])),
      list_mapM_eq fun c hc => hrefs c (hd (by simp_all [Declared.references]))]
    rfl
  rw [display, ht, hr.display_of_get? ht]
  cases form with
  | builtin | parameter => rfl
  | named d | enumeration d => exact hdeclared d (List.Subset.refl _)
  | delegate d params result => exact hdeclared d (by simp [Form.references])
  | array element =>
    have he := hrefs element (List.mem_singleton_self _)
    exact congrArg (Option.bind · fun s => some (s ++ "[]")) he
  | nullable inner =>
    have hi := hrefs inner (List.mem_singleton_self _)
    exact congrArg (Option.bind · fun s => some (s ++ "?")) hi
  | record members =>
    have hms : (members.mapM fun m => return (m.1, ← display r n m.2)) =
        some (members.map fun m => (m.1, r.display m.2)) := by
      refine list_mapM_eq fun m hm => ?_
      rw [hrefs m.2 (List.mem_map_of_mem hm)]
      rfl
    exact congrArg (Option.bind · fun ms => some (Form.display id (.record ms))) hms

theorem canonicalName_eq (hr : r.WellFormed) (hn : h < n) (hh : h < r.size) :
    canonicalName r n h = some (r.canonicalName h) := by
  refine induction (P := fun n h => canonicalName r n h = some (r.canonicalName h))
    (fun n h ⟨form, isValue⟩ hn ht ih => ?_) hn hh
  have hh := Registry.get?_eq_some_lt ht
  have hrefs : ∀ c ∈ form.references, canonicalName r n c = some (r.canonicalName c) := fun c hc =>
    ih c (hr.references_lt ht c hc)
  have hdefinition : (do
      if ← isBoundGeneric r (n + 1) h then
        match form.definition? with
        | some unbound => canonicalName r n unbound
        | none => display r (n + 1) h
      else display r (n + 1) h) = some (if r.isBoundGeneric h then
        (form.map r.canonicalName).definition?.getD (r.display h) else r.display h) := by
    rw [isBoundGeneric_eq hr hn hh, display_eq hr hn hh, Form.definition?_map]
    cases hd : form.definition? with
    | none => cases r.isBoundGeneric h <;> rfl
    | some unbound =>
      have hunbound := hrefs unbound (Form.mem_references_of_definition? hd)
      cases r.isBoundGeneric h with
      | false => rfl
      | true => exact hunbound
  rw [canonicalName, ht, hr.canonicalName_of_get? ht]
  cases form with
  | builtin | nullable => rfl
  | array element =>
    have he := hrefs element (List.mem_singleton_self _)
    exact congrArg (Option.bind · fun s => some (s ++ "[]")) he
  | _ => exact hdefinition

theorem exists_get?_of_outer {o : Handle} (hr : r.WellFormed) (hd : r.declared? h = some d)
    (ho : d.outer = some o) : ∃ t, r.get? o = some t := by
  obtain ⟨t, ht, htd⟩ := Registry.exists_get?_of_declared? hd
  exact Registry.exists_get?_of_lt
    (Nat.lt_trans (hr.outer_lt hd ho) (Registry.get?_eq_some_lt ht))

theorem flatName_eq (hr : r.WellFormed) (hn : h < n) (hd : r.declared? h = some d) :
    flatName r n d = r.flatName? h := by
  obtain ⟨t, ht, -⟩ := Registry.exists_get?_of_declared? hd
  refine induction (P := fun n h => ∀ d, r.declared? h = some d → flatName r n d = r.flatName? h)
    (fun n h _ _ _ ih d hd => ?_) hn (Registry.get?_eq_some_lt ht) d hd
  rw [flatName, Registry.flatName?_of_declared? hr hd]
  cases ho : d.outer with
  | none => rfl
  | some o =>
    have hlt := hr.outer_lt hd ho
    obtain ⟨t, ht⟩ := exists_get?_of_outer hr hd ho
    cases hform : t.form.declared? with
    | none =>
      have hflat : r.flatName? o = none := by
        rw [Registry.flatName?, Registry.fold_of_get? ht, hform]
        rfl
      simp [ht, hform, hflat]
    | some around =>
      have haround : r.declared? o = some around := (Registry.declared?_of_get? ht).trans hform
      have hflat := ih o hlt around haround
      rw [Registry.flatName?_of_declared? hr haround] at hflat
      simp [ht, hform, hflat, Registry.flatName?_of_declared? hr haround]

theorem declaredName_eq (hr : r.WellFormed) (hn : h < n) (hh : h < r.size) :
    declaredName r n h = some (r.declaredName h) := by
  obtain ⟨⟨form, isValue⟩, ht⟩ := Registry.exists_get?_of_lt hh
  have hdisplay : (do return (← display r n h, "")) = some (r.display h, "") := by
    rw [display_eq hr hn hh]
    rfl
  have hdeclared : ∀ d, form.declared? = some d →
      (do return (← flatName r n d, d.namespaceName)) =
        some ((r.flatName? h).getD d.name, d.namespaceName) := by
    intro d hd
    have hd' : r.declared? h = some d := (Registry.declared?_of_get? ht).trans hd
    rw [flatName_eq hr hn hd', Registry.flatName?_of_declared? hr hd']
    rfl
  unfold declaredName Registry.declaredName
  rw [ht]
  cases form with
  | builtin b => rfl
  | named d | enumeration d | delegate d => exact hdeclared d rfl
  | _ => exact hdisplay

theorem writtenArguments_eq (hr : r.WellFormed) (hh : h < r.size) :
    writtenArguments r h = some (r.writtenArguments h) := by
  obtain ⟨t, ht⟩ := Registry.exists_get?_of_lt hh
  unfold writtenArguments Registry.writtenArguments Registry.arguments
  rw [ht]
  cases hd : t.form.declared? with
  | none => simp [hd]
  | some d =>
    cases ho : d.outer with
    | none => simp [hd, ho, Registry.borrowed?]
    | some o =>
      obtain ⟨t', ht'⟩ := exists_get?_of_outer hr ((Registry.declared?_of_get? ht).trans hd) ho
      cases hv : Registry.views.lookup d.name with
      | none => simp [hd, ho, hv, Registry.borrowed?]
      | some position =>
        cases ha : t'.form.arguments[position]? <;>
          simp [hd, ho, hv, ht', ha, Registry.borrowed?, Registry.arguments]

end Readers

section Mapper

variable {m : Mapper} {n : Nat} {h : Handle}

theorem isByte_eq (hh : h < m.registry.size) : isByte m h = some (m.isByte h) := by
  obtain ⟨t, ht⟩ := Registry.exists_get?_of_lt hh
  rw [isByte, Mapper.isByte, ht]
  rfl

theorem override_eq (hr : m.registry.WellFormed) (hn : h < n) (hh : h < m.registry.size) :
    override m n h = some (m.override? h) := by
  rw [override, canonicalName_eq hr hn hh]
  rfl

theorem expansion_eq (hr : m.registry.WellFormed) (hn : h < n) (hh : h < m.registry.size) :
    expansion m n h = some (m.expansion? h) := by
  obtain ⟨t, ht⟩ := Registry.exists_get?_of_lt hh
  unfold expansion Mapper.expansion? Registry.definition?
  rw [override_eq hr hn hh, isBoundGeneric_eq hr hn hh, writtenArguments_eq hr hh, ht]
  cases hskips : (m.override? h).any (·.skipsArguments) with
  | true => simp [hskips]
  | false =>
    cases m.registry.isBoundGeneric h with
    | false => simp
    | true =>
      cases hd : t.form.definition? <;> cases m.registry.writtenArguments h <;> simp [hskips, hd]

theorem namedOutline_eq (hr : m.registry.WellFormed) (hn : h < n) (hh : h < m.registry.size) :
    namedOutline m n h = some (m.namedOutline h) := by
  unfold namedOutline Mapper.namedOutline
  rw [expansion_eq hr hn hh, canonicalName_eq hr hn hh, declaredName_eq hr hn hh, override_eq hr hn hh,
    writtenArguments_eq hr hh]
  cases m.expansion? h with
  | some found => rfl
  | none =>
    cases hs : standardSpelling? (m.registry.canonicalName h) with
    | some s => simp [hs]
    | none =>
      cases m.override? h with
      | none => simp [hs]
      | some o => cases ha : o.rule.usesArguments <;> simp [hs, ha]

theorem outline_eq (hr : m.registry.WellFormed) (hn : h < n) (hh : h < m.registry.size) :
    outline m n h = some (m.outline h) := by
  obtain ⟨⟨form, isValue⟩, ht⟩ := Registry.exists_get?_of_lt hh
  unfold outline Mapper.outline
  rw [ht]
  cases form with
  | array element =>
    have helement : element < m.registry.size :=
      hr.references_lt_size ht element (List.mem_singleton_self element)
    have hbyte := isByte_eq helement
    cases hb : m.isByte element <;> simp [hbyte, hb]
  | builtin | named => exact namedOutline_eq hr hn hh
  | _ => rfl

/-! ### The memo -/

/-- A computation that always has an answer, as one that might not. -/
def total {α : Type} (x : StateM Memo α) : StateT Memo Option α :=
  fun memo => some (x.run memo)

theorem translates_total : Translates (m := StateM Memo) @total :=
  ⟨fun _ => rfl, fun _ _ => rfl⟩

theorem total_remember (h : Handle) (compute : StateM Memo Spelling) :
    total (Memo.remember h compute) = Memo.remember h (total compute) := by
  funext memo
  show some ((Memo.remember h compute).run memo) = (Memo.remember h (total compute)).run memo
  cases hs : memo[h]? with
  | some s =>
    rw [Memo.run_remember_of_some hs, Memo.run_remember_of_some hs]
    rfl
  | none =>
    rw [Memo.run_remember_of_none hs, Memo.run_remember_of_none hs]
    rfl

theorem remember_eq (hr : m.registry.WellFormed) (hn : h < n) (hh : h < m.registry.size) :
    remember m n h = total (m.remember h) := by
  refine induction (P := fun n h => remember m n h = total (m.remember h))
    (fun n h ⟨form, isValue⟩ hn ht ih => ?_) hn hh
  have hh := Registry.get?_eq_some_lt ht
  have htext : ∀ c ∈ (m.outline h).holes, (·.textOr m.fallback) <$> remember m n c =
      total (if _hc : c < h then (·.textOr m.fallback) <$> m.remember c else pure m.fallback) := by
    intro c hc
    have hlt := Mapper.hole_lt hr hc
    rw [ih c hlt, dif_pos hlt]
    rfl
  rw [remember, Mapper.remember, total_remember, outline_eq hr hn hh]
  refine congrArg (Memo.remember h) ?_
  show ((m.outline h).fill (fun c => (·.textOr m.fallback) <$> remember m n c) >>=
    fun filled => pure (filled.spelling m.fallback)) = _
  rw [Outline.fill_congr htext, ← translates_total.fill]
  rfl

theorem map_eq (hr : m.registry.WellFormed) (hn : h < n) (hh : h < m.registry.size) :
    map m n h = total (m.map h).run := by
  obtain ⟨depth, hd⟩ := hr.exists_depth?_of_lt hh
  have hleft : map m n h = if m.maxDepth < depth then return .error (.depthExceeded m.maxDepth h)
      else return .ok (← remember m n h) := by
    rw [map, hd]
    rfl
  have hright : (m.map h).run = if m.maxDepth < depth then return .error (.depthExceeded m.maxDepth h)
      else return .ok (← m.remember h) := by
    simp only [Mapper.map, hd]
    split_ifs <;> rfl
  rw [hleft, hright, remember_eq hr hn hh]
  split_ifs <;> rfl

end Mapper

/-! ### In every registry that constructions lead to -/

/-- Looked into `n` types deep, every reader has an answer for the type, and it is that of the guarded
one. Arguments that are found by way of the type around lead back too. -/
structure Answers (r : Registry) (n : Nat) (h : Handle) : Prop where
  isGeneric : isGeneric r n h = some (r.isGeneric h)
  isUnbound : isUnbound r n h = some (r.isUnbound h)
  display : display r n h = some (r.display h)
  canonicalName : canonicalName r n h = some (r.canonicalName h)
  flatName : ∀ d, r.declared? h = some d →
    ∃ name, flatName r n d = some name ∧ r.flatName? h = some name
  declaredName : declaredName r n h = some (r.declaredName h)
  writtenArguments : writtenArguments r h = some (r.writtenArguments h)
  writtenArguments_lt : ∀ c ∈ r.writtenArguments h, c < h

theorem answers {r : Registry} {n : Nat} {h : Handle} (hr : r.WellFormed) (hn : h < n)
    (hh : h < r.size) : Answers r n h where
  isGeneric := isGeneric_eq hr hn hh
  isUnbound := isUnbound_eq hr hn hh
  display := display_eq hr hn hh
  canonicalName := canonicalName_eq hr hn hh
  flatName _ hd := ⟨_, (flatName_eq hr hn hd).trans (Registry.flatName?_of_declared? hr hd),
    Registry.flatName?_of_declared? hr hd⟩
  declaredName := declaredName_eq hr hn hh
  writtenArguments := writtenArguments_eq hr hh
  writtenArguments_lt _ hc :=
    Registry.lt_of_transGen_refers hr (Registry.transGen_refers_of_mem_writtenArguments hc)

/-- Whatever descriptors a registry was made of, references lead back. So, without any guard, every
reader answers for every type in it, and needs to look no deeper than the handle says; and the mapper
answers from every memo, whatever it holds, and goes on to earlier types only. -/
theorem answers_of_reachable {r : Registry} (hr : r.Reachable) :
    (∀ h t, r.get? h = some t → ∀ c ∈ t.references, c < h) ∧
    (∀ h < r.size, ∀ n, h < n → Answers r n h) ∧
    ∀ m : Mapper, m.registry = r → ∀ h < r.size, ∀ n, h < n →
      outline m n h = some (m.outline h) ∧ (∀ c ∈ (m.outline h).holes, c < h) ∧
      ∀ memo, (remember m n h).run memo = some ((m.remember h).run memo) ∧
        (map m n h).run memo = some ((m.map h).run.run memo) := by
  have hwf := hr.wellFormed
  refine ⟨fun h t ht => hwf.references_lt ht, fun h hh n hn => answers hwf hn hh,
    fun m hm h hh n hn => ?_⟩
  subst hm
  refine ⟨outline_eq hwf hn hh, fun c hc => Mapper.hole_lt hwf hc, fun memo => ⟨?_, ?_⟩⟩
  · rw [remember_eq hwf hn hh]
    rfl
  · rw [map_eq hwf hn hh]
    rfl

/-- A view of a dictionary that is made from an integer, and itself from a string. -/
theorem answers_of_reachable_odd_view :
    let r := Registry.ofConstructions [.builtin .int32, .builtin .string,
      .raw ⟨.named { namespaceName := "", name := "Table", arity := 2, arguments := [0, 1],
                     definition := some 0 }, false⟩,
      .raw ⟨.named { namespaceName := "", name := "KeyCollection", outer := some 2,
                     definition := some 1 }, false⟩]
    canonicalName r 4 3 = some "System.String" ∧
      ((map { registry := r } 4 3).run .empty).map (·.1) = some (.ok (.written "String<Int>")) := by
  intro r
  obtain ⟨-, hreaders, hmapper⟩ := answers_of_reachable (r := r) ⟨_, rfl⟩
  have hknown : 3 < r.size := by decide +kernel
  obtain ⟨-, -, hmemo⟩ := hmapper { registry := r } rfl 3 hknown 4 (Nat.lt_succ_self 3)
  rw [(hreaders 3 hknown 4 (Nat.lt_succ_self 3)).canonicalName, (hmemo .empty).2]
  exact ⟨by decide +kernel, by decide +kernel⟩

end Unguarded
end TypeBridge
