import TypeBridge.Proofs.PathNames

/-!
# Characters that names do not have

Spellings are read by their brackets and arrows, so it matters that the names in them have no such
characters. `Avoids marks s` says so of one text. What is made of names that avoid some marks avoids them
too: names are joined with low lines and dots, and lowercasing puts nothing in the place of a character
that comes before the small letters (`Text.mem_of_mem_lowercase`). So when the names of a registry and the
texts of the overrides avoid them, every outline does in all that it writes itself
(`Mapper.Unmarked.outline`); only the brackets and separators of the rules are left.
-/

namespace TypeBridge

-- looking at the characters of the list, and not at all there are
instance decidableForallMem (cs : List Char) (P : Char → Prop) [DecidablePred P] :
    Decidable (∀ c ∈ cs, P c) :=
  List.decidableBAll ..

def Avoids (marks : List Char) (s : String) : Prop :=
  ∀ c ∈ s.toList, c ∉ marks

/-- The character belongs to no path, and comes before the small letters. -/
def IsMark (c : Char) : Prop :=
  isPathChar c = false ∧ c.toNat < 'a'.toNat

instance (marks : List Char) (s : String) : Decidable (Avoids marks s) :=
  inferInstanceAs (Decidable (∀ c ∈ s.toList, c ∉ marks))
instance (c : Char) : Decidable (IsMark c) := inferInstanceAs (Decidable (_ ∧ _))

theorem intercalate_of_append {P : List Char → Prop} {separator : List Char}
    {parts : List (List Char)} (nil : P []) (append : ∀ {cs cs'}, P cs → P cs' → P (cs ++ cs'))
    (hs : P separator) (hparts : ∀ cs ∈ parts, P cs) : P (separator.intercalate parts) := by
  induction parts with
  | nil => exact nil
  | cons cs parts ih =>
    have hcs := hparts cs List.mem_cons_self
    cases parts with
    | nil => rwa [List.intercalate_singleton]
    | cons cs' parts =>
      rw [List.intercalate_cons_cons]
      exact append (append hcs hs) (ih fun cs hmem => hparts cs (List.mem_cons_of_mem _ hmem))

/-! ### Lowercasing -/

namespace Text

/-- No capital letter has its small letter before `a`. -/
theorem lowercaseRuns_image : ∀ r ∈ CaseTable.lowercaseRuns, 97 ≤ r.first + r.shift ∧
    (r.last + r.shift < 0xD800 ∨ 0xDFFF < r.first + r.shift ∧ r.last + r.shift < 0x110000) := by
  decide +kernel

theorem lowerSimple_eq_or (c : Char) : lowerSimple c = c ∨ 'a'.toNat ≤ (lowerSimple c).toNat := by
  simp only [lowerSimple]
  split
  next r hr =>
    have hrange := List.find?_some hr
    simp only [Bool.and_eq_true, decide_eq_true_eq] at hrange
    obtain ⟨hlow, hvalid⟩ := lowercaseRuns_image r (List.mem_of_find?_eq_some hr)
    have hchar : (c.toNat + r.shift).toNat.isValidChar := by
      unfold Nat.isValidChar
      omega
    have htoNat : (Char.ofNat (c.toNat + r.shift).toNat).toNat = (c.toNat + r.shift).toNat := by
      rw [Char.ofNat, dif_pos hchar]
      rfl
    refine .inr ?_
    rw [htoNat]
    show 97 ≤ (c.toNat + r.shift).toNat
    omega
  next => exact .inl rfl

theorem mem_lowerFrom {c : Char} {casedBefore : Bool} {cs : List Char}
    (hc : c ∈ lowerFrom casedBefore cs) : c ∈ cs ∨ 'a'.toNat ≤ c.toNat := by
  induction cs generalizing casedBefore with
  | nil => cases hc
  | cons c' cs ih =>
    rw [lowerFrom, List.mem_append] at hc
    rcases hc with hc | hc
    · have hsmall : ∀ low ∈ ['ς', 'σ', 'i', '\u0307'], 'a'.toNat ≤ low.toNat := by decide
      split_ifs at hc
      · exact .inr (hsmall c (by simp_all))
      · exact .inr (hsmall c (by simp_all))
      · exact .inr (hsmall c (by simp_all))
      · rw [List.mem_singleton.1 hc, List.mem_cons]
        exact (lowerSimple_eq_or c').imp_left .inl
    · exact (ih hc).imp_left (List.mem_cons_of_mem c')

theorem mem_of_mem_lowercase {c : Char} {s : String} (hc : c ∈ (lowercase s).toList)
    (hlt : c.toNat < 'a'.toNat) : c ∈ s.toList := by
  rw [toList_lowercase] at hc
  exact (mem_lowerFrom hc).resolve_right (Nat.not_le.2 hlt)

end Text

/-! ### Names -/

namespace Avoids
variable {marks : List Char} {s t : String}

theorem append (hs : Avoids marks s) (ht : Avoids marks t) : Avoids marks (s ++ t) := by
  intro c hc
  rw [String.toList_append, List.mem_append] at hc
  exact hc.elim (hs c) (ht c)

theorem of_isNamespace (hmarks : ∀ c ∈ marks, IsMark c) (hs : IsNamespace s) : Avoids marks s := by
  intro c hc hmark
  cases (hs c hc).symm.trans (hmarks c hmark).1

theorem of_isPath (hmarks : ∀ c ∈ marks, IsMark c) (hs : IsPath s) : Avoids marks s :=
  .of_isNamespace hmarks hs.2

theorem lowercase (hmarks : ∀ c ∈ marks, IsMark c) (hs : Avoids marks s) :
    Avoids marks (Text.lowercase s) :=
  fun c hc hmark => hs c (Text.mem_of_mem_lowercase hc (hmarks c hmark).2) hmark

theorem defaultName (hmarks : ∀ c ∈ marks, IsMark c) (hs : Avoids marks s) (ht : Avoids marks t) :
    Avoids marks (defaultName s t) := by
  have hdot : IsNamespace "." := by decide
  unfold TypeBridge.defaultName
  split_ifs
  · exact ht
  · exact ((hs.lowercase hmarks).append (.of_isNamespace hmarks hdot)).append ht

end Avoids

/-- No simple name, namespace or name of a type parameter in the form has one of the characters. The
members of record types may be named freely. -/
def Form.NamesAvoid {ρ : Type} (marks : List Char) : Form ρ → Prop
  | named d | enumeration d | delegate d _ _ => Avoids marks d.name ∧ Avoids marks d.namespaceName
  | parameter name => Avoids marks name
  | builtin _ | array _ | record _ | nullable _ => True

instance {ρ : Type} (marks : List Char) : DecidablePred (Form.NamesAvoid (ρ := ρ) marks)
  | .named _ | .enumeration _ | .delegate .. => inferInstanceAs (Decidable (_ ∧ _))
  | .parameter _ => inferInstanceAs (Decidable (Avoids ..))
  | .builtin _ | .array _ | .record _ | .nullable _ => inferInstanceAs (Decidable True)

/-- No simple name and no namespace of a declared type in the form has one of the characters. Type
parameters may be named freely too. -/
def Form.DeclaredNamesAvoid {ρ : Type} (marks : List Char) (form : Form ρ) : Prop :=
  ∀ d, form.declared? = some d → Avoids marks d.name ∧ Avoids marks d.namespaceName

theorem Form.NamesAvoid.declared {ρ : Type} {marks : List Char} {form : Form ρ}
    (hform : form.NamesAvoid marks) : form.DeclaredNamesAvoid marks := by
  intro d hd
  cases form <;> simp only [declared?, reduceCtorEq, Option.some.injEq] at hd <;> exact hd ▸ hform

instance {ρ : Type} (marks : List Char) : DecidablePred (Form.DeclaredNamesAvoid (ρ := ρ) marks)
  | .named d | .enumeration d | .delegate d .. =>
    decidable_of_iff (Avoids marks d.name ∧ Avoids marks d.namespaceName)
      ⟨fun h _ hd => Option.some.inj hd ▸ h, fun h => h d rfl⟩
  | .builtin _ | .array _ | .parameter _ | .record _ | .nullable _ => .isTrue nofun

namespace Registry

def AllForms (r : Registry) (P : Form Handle → Prop) : Prop :=
  ∀ h form, r.form? h = some form → P form

theorem allForms_iff {r : Registry} {P : Form Handle → Prop} :
    r.AllForms P ↔ ∀ h < r.size, ∀ form ∈ r.form? h, P form :=
  ⟨fun hall h _ form hf => hall h form hf, fun hall h form hf => hall h (lt_size_of_form? hf) form hf⟩

instance (r : Registry) (P : Form Handle → Prop) [DecidablePred P] : Decidable (r.AllForms P) :=
  decidable_of_iff _ allForms_iff.symm

variable {r : Registry} {marks : List Char} {h : Handle} {d : Declared Handle} {name : String}

theorem AllForms.declared (hn : r.AllForms (Form.NamesAvoid marks)) :
    r.AllForms (Form.DeclaredNamesAvoid marks) :=
  fun h form hf => (hn h form hf).declared

theorem AllForms.names (hn : r.AllForms (Form.DeclaredNamesAvoid marks)) (hd : r.declared? h = some d) :
    Avoids marks d.name ∧ Avoids marks d.namespaceName := by
  obtain ⟨t, ht, htd⟩ := exists_get?_of_declared? hd
  exact hn h t.form (form?_of_get? ht) d htd

theorem exists_declared?_of_flatName? (hname : r.flatName? h = some name) :
    ∃ d, r.declared? h = some d := by
  cases ht : r.get? h with
  | none =>
    rw [Registry.flatName?, fold_of_get?_eq_none ht] at hname
    cases hname
  | some t =>
    rw [Registry.flatName?, fold_of_get? ht] at hname
    obtain ⟨d, hd, -⟩ := Option.map_eq_some_iff.1 hname
    exact ⟨d, by rw [declared?_of_get? ht, hd]⟩

theorem AllForms.flatName? (hn : r.AllForms (Form.DeclaredNamesAvoid marks)) (hr : r.WellFormed)
    (hmarks : ∀ c ∈ marks, IsMark c) (hname : r.flatName? h = some name) : Avoids marks name := by
  induction h using Nat.strongRecOn generalizing name with
  | ind h ih =>
    obtain ⟨d, hd⟩ := exists_declared?_of_flatName? hname
    have hlow : IsNamespace "_" := by decide
    rw [flatName?_of_declared? hr hd] at hname
    obtain rfl := Option.some.inj hname
    split
    next outer houter =>
      obtain ⟨o, ho, houter⟩ := Option.bind_eq_some_iff.1 houter
      exact ((ih o (hr.outer_lt hd ho) houter).append (.of_isNamespace hmarks hlow)).append
        (hn.names hd).1
    next => exact (hn.names hd).1

theorem AllForms.declaredName (hn : r.AllForms (Form.DeclaredNamesAvoid marks)) (hr : r.WellFormed)
    (hmarks : ∀ c ∈ marks, IsMark c) (hd : r.declared? h = some d) :
    Avoids marks (r.declaredName h).1 ∧ Avoids marks (r.declaredName h).2 := by
  rw [declaredName_of_declared? hd]
  refine ⟨?_, (hn.names hd).2⟩
  cases hname : r.flatName? h with
  | none => exact (hn.names hd).1
  | some name => exact hn.flatName? hr hmarks hname

end Registry

/-! ### Texts of the rules -/

/-- What the rule writes itself has none of the characters. -/
def Rule.Avoids (marks : List Char) : Rule → Prop
  | rename text => TypeBridge.Avoids marks text
  | template t => ∀ text, Segment.literal text ∈ t.segments → TypeBridge.Avoids marks text

def Overrides.Avoid (os : Overrides) (marks : List Char) : Prop :=
  ∀ name o, os.lookup name = some o → o.rule.Avoids marks

section Append

variable {P : String → Prop} {parts : List String} {separator : String}

theorem join_of_append (nil : P "") (append : ∀ {s t}, P s → P t → P (s ++ t))
    (hparts : ∀ t ∈ parts, P t) : P (String.join parts) := by
  induction parts with
  | nil => exact nil
  | cons t parts ih =>
    rw [String.join_cons]
    exact append (hparts t List.mem_cons_self) (ih fun t ht => hparts t (List.mem_cons_of_mem _ ht))

theorem separated_of_append (nil : P "") (append : ∀ {s t}, P s → P t → P (s ++ t))
    (hs : P separator) (hparts : ∀ t ∈ parts, P t) : P (separator.intercalate parts) := by
  have hchars : P (String.ofList (separator.toList.intercalate (parts.map String.toList))) := by
    refine intercalate_of_append (P := fun cs => P (String.ofList cs)) nil (fun hcs hcs' => ?_) ?_ ?_
    · rw [String.ofList_append]
      exact append hcs hcs'
    · rwa [String.ofList_toList]
    · intro cs hcs
      obtain ⟨t, ht, rfl⟩ := List.mem_map.1 hcs
      rw [String.ofList_toList]
      exact hparts t ht
  rwa [← String.toList_intercalate, String.ofList_toList] at hchars

end Append

/-- What holds of all texts without the characters, and of texts side by side when it holds of each, holds of
a replacement that is made of such texts. -/
theorem Rule.Avoids.apply {P : String → Prop} {marks : List Char} {rule : Rule} {cx : Context}
    (hrule : rule.Avoids marks) (hmarks : ∀ c ∈ marks, IsMark c)
    (plain : ∀ {s}, TypeBridge.Avoids marks s → P s) (append : ∀ {s t}, P s → P t → P (s ++ t))
    (hname : TypeBridge.Avoids marks cx.name) (hns : TypeBridge.Avoids marks cx.namespaceName)
    (hcomma : TypeBridge.Avoids marks ", ") (harguments : ∀ t ∈ cx.arguments, P t)
    (hfallback : P cx.fallback) : P (rule.apply cx) := by
  have nil : P "" := plain nofun
  cases rule with
  | rename text => exact plain hrule
  | template t =>
    refine join_of_append nil append fun text htext => ?_
    obtain ⟨segment, hmem, rfl⟩ := List.mem_map.1 htext
    cases segment with
    | literal text => exact plain (hrule text hmem)
    | name => exact plain hname
    | nameLower => exact plain (hname.lowercase hmarks)
    | namespaceName => exact plain hns
    | namespaceLower => exact plain (hns.lowercase hmarks)
    | arguments => exact separated_of_append nil append (plain hcomma) harguments
    | argument index =>
      rw [Segment.render]
      cases ha : cx.arguments[index]? with
      | none => exact hfallback
      | some text => exact harguments text (List.mem_of_getElem? ha)

def Spelling.Avoids (marks : List Char) (s : Spelling) : Prop :=
  ∀ text, s = .written text → TypeBridge.Avoids marks text

namespace Spelling
variable {marks : List Char} {s : Spelling}

theorem avoids_written {text : String} (ht : TypeBridge.Avoids marks text) :
    (written text).Avoids marks :=
  forall_written ht

theorem IsPlain.avoids (hmarks : ∀ c ∈ marks, IsMark c) (hs : s.IsPlain) : s.Avoids marks :=
  fun text ht => .of_isPath hmarks (hs text ht)

end Spelling

/-- The text of the outline has none of the characters, and neither have the names that a replacement is
given. Brackets and separators are not counted. -/
def Outline.Avoids {ρ : Type} (marks : List Char) : Outline ρ → Prop
  | fixed s => s.Avoids marks
  | replaced rule name namespaceName _ => rule.Avoids marks ∧
      TypeBridge.Avoids marks name ∧ TypeBridge.Avoids marks namespaceName
  | array _ | function _ _ | nullable _ | applied _ _ => True

theorem Outline.Avoids.map {ρ σ : Type} {marks : List Char} {o : Outline ρ} (ho : o.Avoids marks)
    (f : ρ → σ) : (o.map f).Avoids marks := by
  cases o <;> exact ho

namespace Mapper

section Named

variable {m : Mapper} {marks : List Char} {h : Handle}

theorem avoids_declaredName (hr : m.registry.WellFormed) (hmarks : ∀ c ∈ marks, IsMark c)
    (hnames : m.registry.AllForms (Form.DeclaredNamesAvoid marks)) (hn : m.IsNamed h) :
    Avoids marks (m.registry.declaredName h).1 ∧ Avoids marks (m.registry.declaredName h).2 := by
  rcases hn with ⟨b, hf⟩ | ⟨d, hf⟩
  · obtain ⟨hname, hns⟩ := Registry.isIdentifier_declaredName_of_builtin hf
    exact ⟨.of_isPath hmarks hname.isPath, .of_isNamespace hmarks hns⟩
  · exact hnames.declaredName hr hmarks (Registry.declared?_of_named hf)

theorem avoids_namedOutline (hr : m.registry.WellFormed) (hmarks : ∀ c ∈ marks, IsMark c)
    (hnames : m.registry.AllForms (Form.DeclaredNamesAvoid marks)) (hover : m.overrides.Avoid marks)
    (hn : m.IsNamed h) : (m.namedOutline h).Avoids marks := by
  obtain ⟨hname, hns⟩ := avoids_declaredName hr hmarks hnames hn
  refine namedOutline_cases ?expanded ?standard ?replaced ?otherwise
  case expanded => exact fun _ _ _ => trivial
  case standard => exact fun s _ hs => (isPlain_of_standardSpelling? hs).avoids hmarks
  case replaced => exact fun o _ _ ho => ⟨hover _ o ho, hname, hns⟩
  case otherwise => exact fun _ _ _ => Spelling.avoids_written (.defaultName hmarks hns hname)

end Named

/-- No text that the mapper is given has one of the characters. -/
structure Unmarked (m : Mapper) (marks : List Char) : Prop where
  wellFormed : m.registry.WellFormed
  isMark : ∀ c ∈ marks, IsMark c
  names : m.registry.AllForms (Form.NamesAvoid marks)
  overrides : m.overrides.Avoid marks
  fallback : Avoids marks m.fallback
  nameRecord : ∀ r h members, m.nameRecord r h members = recordName members

namespace Unmarked
variable {m : Mapper} {marks : List Char} {h : Handle} (hm : m.Unmarked marks)
include hm

/-- An outline writes none of the characters itself, its brackets and separators apart. -/
theorem outline (h : Handle) : (m.outline h).Avoids marks := by
  have hplain : ∀ {text : String}, IsPath text → (Spelling.written text).Avoids marks :=
    fun ht => (Spelling.isPlain_written ht).avoids hm.isMark
  refine outline_cases ?unknown ?named ?bytes ?array ?parameter ?delegate ?enumeration ?record ?nullable
  case unknown => exact fun _ => Spelling.isPlain_inferred.avoids hm.isMark
  case named =>
    exact avoids_namedOutline hm.wellFormed hm.isMark hm.names.declared hm.overrides
  case bytes => exact fun _ _ _ => hplain (by decide)
  case parameter => exact fun name hf => Spelling.avoids_written (hm.names h _ hf)
  case enumeration => exact fun _ _ => hplain (by decide)
  case record =>
    intro members _
    rw [hm.nameRecord]
    exact hplain (isIdentifier_recordName members).isPath
  case array | delegate | nullable => intros; trivial

end Unmarked
end Mapper
end TypeBridge
