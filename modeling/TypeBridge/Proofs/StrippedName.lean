import TypeBridge.Proofs.Marks

/-!
# Canonical names as stripped display forms

The canonical name of a declared type follows the definition that the type carries; its display form
shows what is bound, with the arguments of the arguments inside. `stripGenerics` knows nothing of types:
it erases what stands between angle brackets in a text and keeps the commas between two outermost ones.
Both come to the same text (`canonicalName_eq_stripGenerics`) when no name has an angle bracket or a comma.

The display form of any type `Vanishes` between brackets, whatever is nested in it, since it closes the
brackets that it opens. So between the outermost ones only the separators of the arguments are left, one
less than there are parameters.
-/

namespace TypeBridge

/-- What is left of a text that comes after `level` open brackets. -/
def stripFrom : Nat → List Char → List Char
  | _, [] => []
  | level, c :: cs =>
    if c = '<' then (if level = 0 then [c] else []) ++ stripFrom (level + 1) cs
    else if c = '>' then (if level ≤ 1 then [c] else []) ++ stripFrom (level - 1) cs
    else (if level = 0 ∨ level = 1 ∧ c = ',' then [c] else []) ++ stripFrom level cs

/-- The text without what stands between two outermost angle brackets, the commas directly between them
excepted. -/
def stripGenerics (text : String) : String :=
  String.ofList (stripFrom 0 text.toList)

/-- The characters that `stripGenerics` looks at. -/
def genericMarks : List Char :=
  ['<', '>', ',']

theorem notMem_genericMarks_iff {c : Char} : c ∉ genericMarks ↔ c ≠ '<' ∧ c ≠ '>' ∧ c ≠ ',' := by
  simp [genericMarks]

/-! ### Texts between brackets -/

/-- Nothing is left of the text where `least` brackets are open or more, and they stay open. -/
def Vanishes (least : Nat) (cs : List Char) : Prop :=
  ∀ level, least ≤ level → ∀ after, stripFrom level (cs ++ after) = stripFrom level after

/-- The second text is left of the first where no bracket is open, and none is open after it. -/
def StripsTo (cs left : List Char) : Prop :=
  ∀ after, stripFrom 0 (cs ++ after) = left ++ stripFrom 0 after

section

variable {least level : Nat} {cs cs' left left' after : List Char} {c : Char}

theorem stripFrom_cons (hopen : c ≠ '<') (hclose : c ≠ '>') : stripFrom level (c :: cs) =
    (if level = 0 ∨ level = 1 ∧ c = ',' then [c] else []) ++ stripFrom level cs := by
  rw [stripFrom, if_neg hopen, if_neg hclose]

theorem stripFrom_open (hlevel : level ≠ 0) :
    stripFrom level ('<' :: cs) = stripFrom (level + 1) cs := by
  rw [stripFrom, if_pos rfl, if_neg hlevel, List.nil_append]

theorem stripFrom_close (hlevel : 1 < level) :
    stripFrom level ('>' :: cs) = stripFrom (level - 1) cs := by
  rw [stripFrom, if_neg (by decide), if_pos rfl, if_neg (Nat.not_le.2 hlevel), List.nil_append]

theorem vanishes_nil : Vanishes least [] :=
  fun _ _ _ => rfl

theorem Vanishes.append (hcs : Vanishes least cs) (hcs' : Vanishes least cs') :
    Vanishes least (cs ++ cs') := by
  intro level hlevel after
  rw [List.append_assoc, hcs level hlevel, hcs' level hlevel]

theorem Vanishes.mono {least' : Nat} (hcs : Vanishes least cs) (hle : least ≤ least') :
    Vanishes least' cs :=
  fun level hlevel => hcs level (Nat.le_trans hle hlevel)

theorem Vanishes.intercalate {separator : List Char} {parts : List (List Char)}
    (hs : Vanishes least separator) (hparts : ∀ cs ∈ parts, Vanishes least cs) :
    Vanishes least (separator.intercalate parts) :=
  intercalate_of_append vanishes_nil .append hs hparts

theorem vanishes_of_forall (hleast : 0 < least) (hcs : ∀ c ∈ cs, c ≠ '<' ∧ c ≠ '>' ∧
    (c = ',' → 1 < least)) : Vanishes least cs := by
  intro level hlevel after
  induction cs with
  | nil => rfl
  | cons c cs ih =>
    obtain ⟨hopen, hclose, hcomma⟩ := hcs c List.mem_cons_self
    have hkeep : ¬ (level = 0 ∨ level = 1 ∧ c = ',') := by
      rintro (rfl | ⟨rfl, hc⟩)
      · exact absurd hlevel (Nat.not_le.2 hleast)
      · exact absurd hlevel (Nat.not_le.2 (hcomma hc))
    rw [List.cons_append, stripFrom_cons hopen hclose, if_neg hkeep, List.nil_append]
    exact ih fun c hc => hcs c (List.mem_cons_of_mem _ hc)

theorem Avoids.vanishes {s : String} (hs : Avoids genericMarks s) : Vanishes 1 s.toList := by
  refine vanishes_of_forall Nat.one_pos fun c hc => ?_
  obtain ⟨hopen, hclose, hcomma⟩ := notMem_genericMarks_iff.1 (hs c hc)
  exact ⟨hopen, hclose, fun hc => absurd hc hcomma⟩

theorem Vanishes.bracketed (hcs : Vanishes 2 cs) : Vanishes 1 ('<' :: (cs ++ ['>'])) := by
  intro level hlevel after
  have hsucc : 2 ≤ level + 1 := Nat.succ_le_succ hlevel
  rw [List.cons_append, stripFrom_open (Nat.ne_of_gt hlevel), List.append_assoc, hcs _ hsucc,
    List.cons_append, stripFrom_close hsucc, List.nil_append, Nat.add_sub_cancel]

theorem StripsTo.append (hcs : StripsTo cs left) (hcs' : StripsTo cs' left') :
    StripsTo (cs ++ cs') (left ++ left') := by
  intro after
  rw [List.append_assoc, hcs, hcs', List.append_assoc]

theorem stripFrom_append_of_kept (hcs : ∀ c ∈ cs, c ≠ '<' ∧ c ≠ '>' ∧
    (level = 0 ∨ level = 1 ∧ c = ',')) :
    stripFrom level (cs ++ after) = cs ++ stripFrom level after := by
  induction cs with
  | nil => rfl
  | cons c cs ih =>
    obtain ⟨hopen, hclose, hkept⟩ := hcs c List.mem_cons_self
    rw [List.cons_append, stripFrom_cons hopen hclose, if_pos hkept,
      ih fun c hc => hcs c (List.mem_cons_of_mem _ hc)]
    rfl

theorem Avoids.stripsTo {s : String} (hs : Avoids genericMarks s) : StripsTo s.toList s.toList := by
  refine fun after => stripFrom_append_of_kept fun c hc => ?_
  obtain ⟨hopen, hclose, -⟩ := notMem_genericMarks_iff.1 (hs c hc)
  exact ⟨hopen, hclose, .inl rfl⟩

/-- Between the brackets of a list of texts that vanish there, the separators are left. -/
theorem stripFrom_separated {parts : List (List Char)} (hparts : ∀ cs ∈ parts, Vanishes 1 cs) :
    stripFrom 1 (", ".toList.intercalate parts ++ after) =
      List.replicate (parts.length - 1) ',' ++ stripFrom 1 after := by
  induction parts with
  | nil => rfl
  | cons cs parts ih =>
    have hcs := hparts cs List.mem_cons_self
    cases parts with
    | nil =>
      rw [List.intercalate_singleton, hcs 1 (Nat.le_refl 1)]
      rfl
    | cons cs' parts =>
      have hrest := ih fun cs hmem => hparts cs (List.mem_cons_of_mem _ hmem)
      rw [List.intercalate_cons_cons, List.append_assoc, List.append_assoc, hcs 1 (Nat.le_refl 1)]
      show ',' :: stripFrom 1 (", ".toList.intercalate (cs' :: parts) ++ after) = _
      rw [hrest]
      rfl

theorem stripsTo_separated {parts : List (List Char)} (hparts : ∀ cs ∈ parts, Vanishes 1 cs) :
    StripsTo ('<' :: (", ".toList.intercalate parts ++ ['>']))
      ('<' :: (List.replicate (parts.length - 1) ',' ++ ['>'])) := by
  intro after
  show '<' :: stripFrom 1 (", ".toList.intercalate parts ++ ['>'] ++ after) = _
  rw [List.append_assoc, stripFrom_separated hparts]
  simp [stripFrom]

end

/-! ### Display forms -/

theorem toList_arityMarker {arity : Nat} (ha : arity ≠ 0) :
    (arityMarker arity).toList = '<' :: (List.replicate (arity - 1) ',' ++ ['>']) := by
  rw [arityMarker, if_neg ha]
  simp

theorem vanishes_arityMarker (arity : Nat) : Vanishes 1 (arityMarker arity).toList := by
  by_cases ha : arity = 0
  · rw [ha]
    exact vanishes_nil
  · rw [toList_arityMarker ha]
    refine (vanishes_of_forall Nat.two_pos fun c hc => ?_).bracketed
    rw [(List.mem_replicate.1 hc).2]
    decide

theorem stripsTo_arityMarker (arity : Nat) :
    StripsTo (arityMarker arity).toList (arityMarker arity).toList := by
  have hcommas : ∀ c ∈ List.replicate (arity - 1) ',',
      c ≠ '<' ∧ c ≠ '>' ∧ (1 = 0 ∨ 1 = 1 ∧ c = ',') := by
    intro c hc
    rw [(List.mem_replicate.1 hc).2]
    decide
  by_cases ha : arity = 0
  · rw [ha]
    exact fun _ => rfl
  · intro after
    rw [toList_arityMarker ha]
    show '<' :: stripFrom 1 (List.replicate (arity - 1) ',' ++ ['>'] ++ after) = _
    rw [List.append_assoc, stripFrom_append_of_kept hcommas]
    simp [stripFrom]

namespace Declared
variable {ρ : Type} {d : Declared ρ} {text : ρ → String}

theorem toList_generics (ha : d.arguments ≠ []) : (d.generics text).toList =
    '<' :: (", ".toList.intercalate (d.arguments.map fun a => (text a).toList) ++ ['>']) := by
  rw [generics_of_arguments_ne_nil ha]
  simp [String.toList_intercalate, Function.comp_def]

theorem vanishes_generics (hargs : ∀ a ∈ d.arguments, Vanishes 1 (text a).toList) :
    Vanishes 1 (d.generics text).toList := by
  by_cases ha : d.arguments = []
  · rw [generics, ha]
    exact vanishes_arityMarker d.arity
  · rw [toList_generics ha]
    refine (Vanishes.intercalate (vanishes_of_forall Nat.two_pos (by decide)) fun cs hcs => ?_).bracketed
    obtain ⟨a, hmem, rfl⟩ := List.mem_map.1 hcs
    exact (hargs a hmem).mono (Nat.le_succ 1)

/-- When all parameters are bound, one comma less than there are is left of the arguments. -/
theorem stripsTo_generics (hargs : ∀ a ∈ d.arguments, Vanishes 1 (text a).toList)
    (hlength : d.arguments ≠ [] → d.arguments.length = d.arity) :
    StripsTo (d.generics text).toList (arityMarker d.arity).toList := by
  by_cases ha : d.arguments = []
  · rw [generics, ha]
    exact stripsTo_arityMarker d.arity
  · have harity : d.arity ≠ 0 := by
      rw [← hlength ha]
      exact fun hzero => ha (List.length_eq_zero_iff.1 hzero)
    rw [toList_generics ha, toList_arityMarker harity, ← hlength ha]
    have hparts : ∀ cs ∈ d.arguments.map fun a => (text a).toList, Vanishes 1 cs := by
      intro cs hcs
      obtain ⟨a, hmem, rfl⟩ := List.mem_map.1 hcs
      exact hargs a hmem
    have hstrips := stripsTo_separated hparts
    rwa [List.length_map] at hstrips

theorem vanishes_display (hname : Avoids genericMarks d.name)
    (hns : Avoids genericMarks d.namespaceName)
    (hrefs : ∀ c ∈ d.references, Vanishes 1 (text c).toList) : Vanishes 1 (d.display text).toList := by
  have hdot : Avoids genericMarks "." := by decide
  have hqualifier : Vanishes 1 (d.qualifier text).toList := by
    unfold qualifier
    split
    next o ho =>
      rw [String.toList_append]
      exact (hrefs o (mem_references_of_outer ho)).append hdot.vanishes
    next =>
      split_ifs
      · exact vanishes_nil
      · exact (hns.append hdot).vanishes
  rw [display, String.toList_append, String.toList_append]
  exact (hqualifier.append hname.vanishes).append
    (vanishes_generics fun a ha => hrefs a (mem_references_iff.2 (.inl ha)))

end Declared

theorem Form.vanishes_display_record {ρ : Type} {members : List (String × ρ)} {text : ρ → String}
    (hnames : ∀ m ∈ members, Avoids genericMarks m.1)
    (htypes : ∀ m ∈ members, Vanishes 1 (text m.2).toList) :
    Vanishes 1 ((Form.record members).display text).toList := by
  have hshown : ∀ m ∈ members, Vanishes 2 (text m.2 ++ " " ++ m.1).toList := by
    intro m hm
    have hblank : Avoids genericMarks " " := by decide
    rw [String.toList_append, String.toList_append]
    exact (((htypes m hm).append hblank.vanishes).append (hnames m hm).vanishes).mono (Nat.le_succ 1)
  have hseparated :
      Vanishes 2 (", ".intercalate (members.map fun m => text m.2 ++ " " ++ m.1)).toList := by
    rw [String.toList_intercalate, List.map_map]
    refine Vanishes.intercalate (vanishes_of_forall Nat.two_pos (by decide)) fun cs hcs => ?_
    obtain ⟨m, hm, rfl⟩ := List.mem_map.1 hcs
    exact hshown m hm
  have hword : Vanishes 2 "anonymous type".toList := vanishes_of_forall Nat.two_pos (by decide)
  have hcolon : Vanishes 2 ": ".toList := vanishes_of_forall Nat.two_pos (by decide)
  show Vanishes 1 ("<anonymous type" ++ _ ++ ">").toList
  rw [String.toList_append, String.toList_append]
  refine (hword.append ?_).bracketed
  split_ifs
  · exact vanishes_nil
  · rw [String.toList_append]
    exact hcolon.append hseparated

/-- No name in the form has an angle bracket or a comma, and neither have the names of members. -/
def Form.Unbracketed {ρ : Type} : Form ρ → Prop
  | record members => ∀ m ∈ members, Avoids genericMarks m.1
  | form => form.NamesAvoid genericMarks

instance {ρ : Type} : DecidablePred (Form.Unbracketed (ρ := ρ))
  | .record _ => List.decidableBAll ..
  | .named _ | .enumeration _ | .delegate .. => inferInstanceAs (Decidable (_ ∧ _))
  | .parameter _ => inferInstanceAs (Decidable (Avoids ..))
  | .builtin _ | .array _ | .nullable _ => inferInstanceAs (Decidable True)

theorem Form.Unbracketed.namesAvoid {ρ : Type} {form : Form ρ} (hform : form.Unbracketed) :
    form.NamesAvoid genericMarks := by
  cases form with
  | record members => trivial
  | _ => exact hform

namespace Registry

variable {r : Registry} {h o : Handle} {d : Declared Handle}

theorem AllForms.vanishes_display (hn : r.AllForms Form.Unbracketed) (h : Handle) :
    Vanishes 1 (r.display h).toList := by
  induction h using Nat.strongRecOn with
  | ind h ih =>
    cases ht : r.get? h with
    | none =>
      rw [display, fold_of_get?_eq_none ht]
      exact vanishes_nil
    | some t =>
      have hform := hn h t.form (form?_of_get? ht)
      have hearlier : ∀ c, Vanishes 1 (if c < h then r.display c else "").toList := by
        intro c
        split_ifs with hc
        · exact ih c hc
        · exact vanishes_nil
      rw [display, fold_of_get? ht]
      change Vanishes 1 (t.form.display fun c => if c < h then r.display c else "").toList
      cases hf : t.form with
      | builtin b =>
        have hb : ∀ b ∈ Builtin.all, Avoids genericMarks b.display := by decide
        exact (hb b b.mem_all).vanishes
      | named d | enumeration d | delegate d params result =>
        rw [hf] at hform
        exact Declared.vanishes_display hform.1 hform.2 fun c _ => hearlier c
      | parameter name =>
        rw [hf] at hform
        exact Avoids.vanishes hform
      | array element =>
        have hsuffix : Avoids genericMarks "[]" := by decide
        show Vanishes 1 (_ ++ "[]").toList
        rw [String.toList_append]
        exact (hearlier element).append hsuffix.vanishes
      | nullable inner =>
        have hsuffix : Avoids genericMarks "?" := by decide
        show Vanishes 1 (_ ++ "?").toList
        rw [String.toList_append]
        exact (hearlier inner).append hsuffix.vanishes
      | record members =>
        rw [hf] at hform
        exact Form.vanishes_display_record hform fun m _ => hearlier m.2

/-- Both names are put together in the same places, and in each place what is bound comes to the places
of the parameters. -/
theorem Coherent.stripsTo_display (hr : r.Coherent) (hn : r.AllForms Form.Unbracketed)
    (hd : r.declared? h = some d) : StripsTo (r.display h).toList (r.canonicalName h).toList := by
  induction h using Nat.strongRecOn generalizing d with
  | ind h ih =>
    have hdot : Avoids genericMarks "." := by decide
    have hnames : r.AllForms (Form.NamesAvoid genericMarks) := fun h form hf => (hn h form hf).namesAvoid
    obtain ⟨hname, hns⟩ := hnames.declared.names hd
    obtain ⟨t, -, hcoh⟩ := hr.of_declared? hd
    have hgenerics : StripsTo (d.generics r.display).toList (arityMarker d.arity).toList :=
      Declared.stripsTo_generics (fun a _ => hn.vanishes_display a) fun ha => (hcoh.arguments ha).1
    rw [display_of_declared? hr.toWellFormed hd, Declared.display, String.append_assoc,
      String.toList_append, String.toList_append]
    cases ho : d.outer with
    | none =>
      have hscope : StripsTo (scopeOf d.namespaceName).toList (scopeOf d.namespaceName).toList := by
        unfold scopeOf
        split_ifs
        · exact fun _ => rfl
        · exact (hns.append hdot).stripsTo
      rw [Declared.qualifier_of_top ho, hr.canonicalName_of_top hd ho, Declared.unboundName,
        String.toList_append, String.toList_append]
      exact hscope.append (hname.stripsTo.append hgenerics)
    | some o =>
      obtain ⟨around, hf, -⟩ := hcoh.outer o ho
      have houter := ih o (hr.outer_lt hd ho) (declared?_of_named hf)
      rw [Declared.qualifier_of_outer ho, hr.canonicalName_of_outer hd ho, Declared.unboundName,
        String.toList_append, String.toList_append, String.toList_append, String.toList_append]
      exact (houter.append hdot.stripsTo).append (hname.stripsTo.append hgenerics)

/-- In whatever is built without raw descriptors, with names that have no angle brackets and no commas,
the canonical name of a declared type is its display form, where nothing is left between outermost angle
brackets but the commas directly between them. -/
theorem canonicalName_eq_stripGenerics (hr : r.Built) (hn : r.AllForms Form.Unbracketed)
    (hd : r.declared? h = some d) : r.canonicalName h = stripGenerics (r.display h) := by
  have hstrips := hr.coherent.stripsTo_display hn hd []
  rw [List.append_nil] at hstrips
  rw [stripGenerics, hstrips, stripFrom, List.append_nil, String.ofList_toList]

/-- A generic type inside a bound one, which is bound to arrays of records with a bound type inside, and
to optional values. -/
theorem canonicalName_eq_stripGenerics_nested :
    let r := ofConstructions [.builtin .int32, .generic "Lib" "Box" 1 false, .instantiate 1 [0],
      .record [("Id", 0), ("Items", 2)], .array 3, .nullable 0, .nested 2 "Pair" 2 true,
      .instantiate 7 [4, 5]]
    r.display 8 = "Lib.Box<int>.Pair<<anonymous type: int Id, Lib.Box<int> Items>[], int?>" ∧
      r.canonicalName 8 = "Lib.Box<>.Pair<,>" ∧
      r.canonicalName 8 = stripGenerics (r.display 8) := by
  intro r
  have hr : r.Built := ⟨_, by decide, rfl⟩
  have hn : r.AllForms Form.Unbracketed := by decide +kernel
  obtain ⟨d, hd⟩ : ∃ d, r.declared? 8 = some d := Option.isSome_iff_exists.1 (by decide +kernel)
  exact ⟨by decide +kernel, by decide +kernel, canonicalName_eq_stripGenerics hr hn hd⟩

end Registry
end TypeBridge
