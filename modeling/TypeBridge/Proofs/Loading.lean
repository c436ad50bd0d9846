import Mathlib.Data.Nat.Find
import TypeBridge.Proofs.Schema
import TypeBridge.Proofs.TemplateGrammar

/-!
# Loading overrides

An entry of a document asks for an override that can also be built in memory (`Entry.build`), and a
document is loaded as the list of these is (`ofEntries_eq_ofList`) when all of them can be built. A list
with distinct names makes a set that `Holds` just what is in it. Otherwise one entry is the first that is
`Refused` after those before it, which are loaded by themselves, and it alone decides the error.
-/

namespace TypeBridge

open Document

section First

variable {α β ε σ : Type} {l before after : List α} {a : α}

theorem nodup_map_concat_iff {f : α → β} :
    ((l ++ [a]).map f).Nodup ↔ (l.map f).Nodup ∧ f a ∉ l.map f := by
  simp [List.nodup_append]

theorem eq_take_append_cons {i : Nat} (ha : l[i]? = some a) : l = l.take i ++ a :: l.drop (i + 1) := by
  rw [← List.singleton_append, ← Option.toList_some, ← ha, ← List.append_assoc, ← List.take_add_one,
    List.take_append_drop]

theorem foldlM_append_cons_of_ok {f : σ → α → Except ε σ} {s s' : σ}
    (hbefore : before.foldlM f s = .ok s') :
    (before ++ a :: after).foldlM f s = (f s' a >>= fun s => after.foldlM f s) := by
  rw [List.foldlM_append, hbefore]
  show (a :: after).foldlM f s' = _
  rw [List.foldlM_cons]

/-- What holds of no elements, but not of the whole list, is lost at a first element. -/
theorem exists_first_of_not {P : List α → Prop} (nil : P []) (hl : ¬ P l) :
    ∃ i a, l[i]? = some a ∧ ¬ P (l.take i ++ [a]) ∧ ∀ j ≤ i, P (l.take j) := by
  classical
  have hex : ∃ k, ¬ P (l.take k) := ⟨l.length, by rwa [List.take_length]⟩
  obtain ⟨k, hk, hmin⟩ : ∃ k, ¬ P (l.take k) ∧ ∀ j < k, P (l.take j) :=
    ⟨Nat.find hex, Nat.find_spec hex, fun j hj => not_not.1 (Nat.find_min hex hj)⟩
  cases k with
  | zero => exact absurd nil hk
  | succ i =>
    rw [List.take_add_one] at hk
    cases ha : l[i]? with
    | none =>
      rw [ha, Option.toList_none, List.append_nil] at hk
      exact absurd (hmin i (Nat.lt_succ_self i)) hk
    | some a =>
      rw [ha] at hk
      exact ⟨i, a, ha, hk, fun j hj => hmin j (Nat.lt_succ_of_le hj)⟩

end First

namespace Document.Entry

variable {e : Entry} {o : Override} {error : TemplateError}

/-- The override that the entry asks for, built in memory. -/
def build (e : Entry) : Except TemplateError Override := do
  let o ← match e.rule with
    | .rename text => .ok (Override.rename e.typeName text)
    | .template source => Override.template e.typeName source
  return if e.skipsArguments then o.skippingArguments else o

/-- The template of the entry can be read, if it has one. -/
def IsValid (e : Entry) : Prop :=
  ∀ source, e.rule = .template source → ∃ t, Template.parse source = .ok t

theorem build_rename (typeName text : String) (skipsArguments : Bool) :
    build ⟨typeName, .rename text, skipsArguments⟩ =
      .ok ⟨typeName, .rename text, skipsArguments⟩ := by
  cases skipsArguments <;> rfl

theorem build_template {typeName source : String} {skipsArguments : Bool} {t : Template}
    (h : Template.parse source = .ok t) :
    build ⟨typeName, .template source, skipsArguments⟩ =
      .ok ⟨typeName, .template t, skipsArguments⟩ := by
  have hbuild : Override.template typeName source = .ok ⟨typeName, .template t, false⟩ := by
    rw [Override.template, h]
    rfl
  simp only [build, hbuild]
  cases skipsArguments <;> rfl

theorem build_eq_error {source : String} (hr : e.rule = .template source)
    (h : Template.parse source = .error error) : e.build = .error error := by
  rw [build, hr]
  simp only [Override.template, h]
  rfl

theorem of_build (h : e.build = .ok o) : o.typeName = e.typeName ∧ e.IsValid ∧
    ((∃ text, o.rule = .rename text) ∨ ∃ source t, Template.parse source = .ok t ∧
      o.rule = .template t) := by
  obtain ⟨typeName, rule, skipsArguments⟩ := e
  cases rule with
  | rename text =>
    rw [build_rename] at h
    obtain rfl := Except.ok.inj h
    exact ⟨rfl, nofun, .inl ⟨text, rfl⟩⟩
  | template source =>
    cases hp : Template.parse source with
    | error error =>
      rw [build_eq_error rfl hp] at h
      cases h
    | ok t =>
      rw [build_template hp] at h
      obtain rfl := Except.ok.inj h
      refine ⟨rfl, fun source' hs => ⟨t, ?_⟩, .inr ⟨source, t, hp, rfl⟩⟩
      rw [← EntryRule.template.inj hs, hp]

theorem exists_build (h : e.IsValid) : ∃ o, e.build = .ok o := by
  obtain ⟨typeName, rule, skipsArguments⟩ := e
  cases rule with
  | rename text => exact ⟨_, build_rename ..⟩
  | template source =>
    obtain ⟨t, ht⟩ := h source rfl
    exact ⟨_, build_template ht⟩

/-- The entry that is written for an override asks for it again: templates are read back from print. -/
theorem build_toEntry (h : e.build = .ok o) : o.toEntry.build = .ok o := by
  obtain ⟨typeName, rule, skipsArguments⟩ := o
  obtain ⟨-, -, ⟨text, hr⟩ | ⟨source, t, ht, hr⟩⟩ := of_build h
  · obtain rfl : rule = .rename text := hr
    exact build_rename ..
  · obtain rfl : rule = .template t := hr
    obtain ⟨hn, -⟩ := Template.parse_eq_ok_iff.1 ht
    exact build_template (Template.parse_of_writes hn t.writes_source)

theorem ofEntry_eq_mapError (e : Entry) :
    Override.ofEntry e = e.build.mapError (.template e.typeName e.rule.text) := by
  obtain ⟨typeName, rule, skipsArguments⟩ := e
  cases rule with
  | rename text =>
    rw [build_rename]
    rfl
  | template source =>
    cases h : Template.parse source with
    | ok t =>
      rw [build_template h]
      simp only [Override.ofEntry, h]
      rfl
    | error error =>
      rw [build_eq_error rfl h]
      simp only [Override.ofEntry, h]
      rfl

theorem exists_mapM_build {es : List Entry} (h : ∀ e ∈ es, e.IsValid) :
    ∃ list, es.mapM build = .ok list := by
  induction es with
  | nil => exact ⟨[], rfl⟩
  | cons e es ih =>
    obtain ⟨he, hes⟩ := List.forall_mem_cons.1 h
    obtain ⟨o, ho⟩ := exists_build he
    obtain ⟨list, hlist⟩ := ih hes
    refine ⟨o :: list, ?_⟩
    rw [List.mapM_cons, ho, hlist]
    rfl

theorem mapM_build_toEntry {list : List Override} (h : ∀ o ∈ list, ∃ e : Entry, e.build = .ok o) :
    (list.map Override.toEntry).mapM build = .ok list := by
  induction list with
  | nil => rfl
  | cons o list ih =>
    obtain ⟨⟨e, he⟩, hlist⟩ := List.forall_mem_cons.1 h
    rw [List.map_cons, List.mapM_cons, build_toEntry he, ih hlist]
    rfl

theorem map_typeName_of_mapM_build {es : List Entry} {list : List Override}
    (h : es.mapM build = .ok list) : list.map (·.typeName) = es.map (·.typeName) := by
  induction es generalizing list with
  | nil => rw [← Except.ok.inj h]; rfl
  | cons e es ih =>
    rw [List.mapM_cons, bind_eq_ok_iff] at h
    obtain ⟨o, ho, h⟩ := h
    obtain ⟨list', hlist, h⟩ := bind_eq_ok_iff.1 h
    obtain rfl := Except.ok.inj h
    rw [List.map_cons, List.map_cons, (of_build ho).1, ih hlist]

end Document.Entry

theorem Document.isEntry_encodeEntry (e : Entry) : IsEntry (encodeEntry e) e := by
  obtain ⟨typeName, rule, skipsArguments⟩ := e
  cases rule with
  | rename text =>
    refine ⟨_, rfl, ?_, .inl ?_, ⟨_, ?_, .rename⟩, ?_⟩ <;>
      simp [valuesOf, EntryRule.name, EntryRule.text, RuleName.textField]
  | template source =>
    refine ⟨_, rfl, ?_, .inl ?_, ⟨_, ?_, .template⟩, ?_⟩ <;>
      simp [valuesOf, EntryRule.name, EntryRule.text, RuleName.textField]

theorem Document.describes_encode (es : List Entry) : Describes (encode es) es := by
  refine ⟨_, .member _, ?_⟩
  induction es with
  | nil => exact .nil
  | cons e es ih => exact .cons (isEntry_encodeEntry e) ih

namespace Overrides

/-! ### Building in memory -/

/-- The overrides of the list are in the set under their names, and no others are. -/
structure Holds (os : Overrides) (list : List Override) : Prop where
  size : os.size = list.length
  lookup : ∀ name o, os.lookup name = some o ↔ o ∈ list ∧ o.typeName = name

theorem holds_empty : Holds empty [] := by
  refine ⟨rfl, fun name o => ?_⟩
  simp [lookup_empty]

variable {os : Overrides} {list : List Override} {o : Override}

theorem Holds.mem_iff (h : os.Holds list) {name : String} :
    name ∈ os.byName ↔ name ∈ list.map (·.typeName) := by
  rw [List.mem_map]
  constructor
  · intro hm
    exact ⟨_, (h.lookup name _).1 (getElem?_pos os.byName name hm)⟩
  · rintro ⟨o, ho⟩
    exact of_getElem?_eq_some ((h.lookup name o).2 ho)

theorem Holds.exists_insert (h : os.Holds list) (hn : o.typeName ∉ list.map (·.typeName)) :
    ∃ os', os.insert o = .ok os' ∧ os'.Holds (list ++ [o]) := by
  have hnew : o.typeName ∉ os.byName := fun hm => hn (h.mem_iff.1 hm)
  have hinsert : os.insert o = .ok ⟨os.byName.insert o.typeName o⟩ := if_neg hnew
  refine ⟨_, hinsert, ?_, fun name o' => ?_⟩
  · have hsize : os.byName.size = list.length := h.size
    show (os.byName.insert o.typeName o).size = _
    rw [Std.ExtTreeMap.size_insert, if_neg (by simpa using hnew), hsize, List.length_append]
    rfl
  · rw [lookup_of_insert hinsert, List.mem_append, List.mem_singleton]
    split_ifs with hname
    · subst hname
      constructor
      · intro ho
        exact ⟨.inr (Option.some.inj ho).symm, congrArg _ (Option.some.inj ho).symm⟩
      · rintro ⟨ho | rfl, hname⟩
        · exact absurd (hname ▸ List.mem_map_of_mem ho) hn
        · rfl
    · rw [h.lookup]
      constructor
      · exact fun ⟨ho, hname'⟩ => ⟨.inl ho, hname'⟩
      · rintro ⟨ho | rfl, hname'⟩
        · exact ⟨ho, hname'⟩
        · exact absurd hname' hname

theorem exists_ofList (hn : (list.map (·.typeName)).Nodup) :
    ∃ os, ofList list = .ok os ∧ os.Holds list := by
  induction list using List.reverseRecOn with
  | nil => exact ⟨empty, rfl, holds_empty⟩
  | append_singleton list o ih =>
    obtain ⟨hlist, hnew⟩ := nodup_map_concat_iff.1 hn
    obtain ⟨os, hos, hholds⟩ := ih hlist
    obtain ⟨os', hinsert, hholds'⟩ := hholds.exists_insert hnew
    refine ⟨os', ?_, hholds'⟩
    have hos' : list.foldlM insert empty = .ok os := hos
    rw [ofList, foldlM_append_cons_of_ok hos', hinsert]
    rfl

/-! ### Loading -/

/-- All templates can be read, and no name occurs twice. -/
def Loadable (es : List Entry) : Prop :=
  (∀ e ∈ es, e.IsValid) ∧ (es.map (·.typeName)).Nodup

/-- The entry is refused after those before it. What is wrong with its template comes first. -/
inductive Refused (before : List Entry) (e : Entry) : LoadError → Prop
  | template {source : String} {error : TemplateError} (hr : e.rule = .template source)
      (hp : Template.parse source = .error error) : Refused before e (.template e.typeName source error)
  | duplicate (hv : e.IsValid) (hn : e.typeName ∈ before.map (·.typeName)) :
      Refused before e (.duplicate e.typeName)

/-- The entry at `i` is refused after those before it, and none of those is. -/
structure FirstRefused (es : List Entry) (i : Nat) (error : LoadError) : Prop where
  refused : ∃ e, es[i]? = some e ∧ Refused (es.take i) e error
  earlier : ∀ j < i, ∀ e error', es[j]? = some e → ¬ Refused (es.take j) e error'

section Entries

variable {es before after : List Entry} {e : Entry} {error : LoadError}

def insertEntry (os : Overrides) (e : Entry) : Except LoadError Overrides := do
  os.insert (← Override.ofEntry e)

theorem insertEntry_of_build (os : Overrides) (h : e.build = .ok o) :
    os.insertEntry e = os.insert o := by
  rw [insertEntry, Entry.ofEntry_eq_mapError, h]
  rfl

theorem insertEntry_of_refused (hholds : os.Holds list)
    (hnames : list.map (·.typeName) = before.map (·.typeName)) (he : Refused before e error) :
    os.insertEntry e = .error error := by
  cases he with
  | template hr hp =>
    rw [insertEntry, Entry.ofEntry_eq_mapError, Entry.build_eq_error hr hp, hr]
    rfl
  | duplicate hv hn =>
    obtain ⟨o, ho⟩ := Entry.exists_build hv
    have hname : o.typeName = e.typeName := (Entry.of_build ho).1
    rw [← hnames, ← hname, ← hholds.mem_iff] at hn
    rw [insertEntry_of_build os ho, ← hname]
    exact if_pos hn

theorem ofEntries_eq_ofList (h : es.mapM Entry.build = .ok list) : ofEntries es = ofList list := by
  suffices hfrom : ∀ os : Overrides, es.foldlM insertEntry os = list.foldlM insert os from
    hfrom empty
  induction es generalizing list with
  | nil =>
    obtain rfl := Except.ok.inj h
    exact fun os => rfl
  | cons e es ih =>
    intro os
    rw [List.mapM_cons, bind_eq_ok_iff] at h
    obtain ⟨o, ho, h⟩ := h
    obtain ⟨list', hlist, h⟩ := bind_eq_ok_iff.1 h
    obtain rfl := Except.ok.inj h
    rw [List.foldlM_cons, List.foldlM_cons, insertEntry_of_build os ho, funext (ih hlist)]

theorem Loadable.exists_ofList (h : Loadable es) : ∃ list os, es.mapM Entry.build = .ok list ∧
    ofList list = .ok os ∧ ofEntries es = .ok os ∧ os.Holds list := by
  obtain ⟨list, hlist⟩ := Entry.exists_mapM_build h.1
  have hn : (list.map (·.typeName)).Nodup := Entry.map_typeName_of_mapM_build hlist ▸ h.2
  obtain ⟨os, hos, hholds⟩ := Overrides.exists_ofList hn
  exact ⟨list, os, hlist, hos, (ofEntries_eq_ofList hlist).trans hos, hholds⟩

/-- A refused entry decides the error when those before it can be loaded, whatever comes after it. -/
theorem ofEntries_of_refused (hb : Loadable before) (he : Refused before e error) :
    ofEntries (before ++ e :: after) = .error error := by
  obtain ⟨list, os, hlist, -, hos, hholds⟩ := hb.exists_ofList
  have hbefore : before.foldlM insertEntry empty = .ok os := hos
  have hstep := insertEntry_of_refused hholds (Entry.map_typeName_of_mapM_build hlist) he
  show (before ++ e :: after).foldlM insertEntry empty = .error error
  rw [foldlM_append_cons_of_ok hbefore, hstep]
  rfl

theorem not_refused_iff :
    (∀ error, ¬ Refused before e error) ↔ e.IsValid ∧ e.typeName ∉ before.map (·.typeName) := by
  constructor
  · intro h
    have hv : e.IsValid := by
      intro source hr
      cases hp : Template.parse source with
      | ok t => exact ⟨t, rfl⟩
      | error error => exact absurd (.template hr hp) (h _)
    exact ⟨hv, fun hn => h _ (.duplicate hv hn)⟩
  · rintro ⟨hv, hn⟩ error (⟨hr, hp⟩ | ⟨-, hn'⟩)
    · obtain ⟨t, ht⟩ := hv _ hr
      cases ht.symm.trans hp
    · exact hn hn'

theorem loadable_concat_iff :
    Loadable (es ++ [e]) ↔ Loadable es ∧ ∀ error, ¬ Refused es e error := by
  have hvalid : (∀ e' ∈ es ++ [e], e'.IsValid) ↔ (∀ e' ∈ es, e'.IsValid) ∧ e.IsValid := by
    simp [or_imp, forall_and]
  rw [Loadable, Loadable, hvalid, nodup_map_concat_iff, not_refused_iff]
  tauto

theorem loadable_take_succ_iff {i : Nat} (he : es[i]? = some e) :
    Loadable (es.take (i + 1)) ↔ Loadable (es.take i) ∧ ∀ error, ¬ Refused (es.take i) e error := by
  rw [List.take_add_one, he]
  exact loadable_concat_iff

theorem exists_firstRefused (h : ¬ Loadable es) :
    ∃ i error, FirstRefused es i error ∧ Loadable (es.take i) := by
  obtain ⟨i, e, he, hlost, hkept⟩ := exists_first_of_not ⟨nofun, List.nodup_nil⟩ h
  have hi := hkept i (Nat.le_refl i)
  rw [loadable_concat_iff, not_and, not_forall_not] at hlost
  obtain ⟨error, hrefused⟩ := hlost hi
  refine ⟨i, error, ⟨⟨e, he, hrefused⟩, fun j hj e' error' he' => ?_⟩, hi⟩
  exact ((loadable_take_succ_iff he').1 (hkept (j + 1) hj)).2 error'

theorem ofEntries_of_firstRefused {i : Nat} (h : FirstRefused es i error) (hi : Loadable (es.take i)) :
    ofEntries es = .error error := by
  obtain ⟨e, he, hrefused⟩ := h.refused
  rw [eq_take_append_cons he]
  exact ofEntries_of_refused hi hrefused

end Entries

/-- A document is loaded as the list of what its entries ask for, built in memory, when all templates can be
read and the names are distinct. Otherwise the first entry that is refused after those before it decides
the error. What has been built in memory under distinct names is written as a document and loaded again. -/
theorem load_exact :
    (∀ (reading : Json.Reading) (es : List Entry),
      reading.complete = true → Describes reading.root es →
      (Loadable es → ∃ list os, es.mapM Entry.build = .ok list ∧ ofList list = .ok os ∧
        ofReading reading = .ok os) ∧
      (¬ Loadable es → ∃ i error, FirstRefused es i error ∧ ofReading reading = .error error)) ∧
    ∀ list : List Override, (∀ o ∈ list, ∃ e : Entry, e.build = .ok o) →
      (list.map (·.typeName)).Nodup →
      (list.map Override.toEntry).mapM Entry.build = .ok list ∧
      ∃ os : Overrides, os.Holds list ∧ ∀ es : List Entry, es.mapM Entry.build = .ok list →
        Describes (encode es) es ∧ ofReading ⟨encode es, true⟩ = .ok os := by
  refine ⟨fun reading es hcomplete hes => ?_, fun list hbuilt hn => ⟨?_, ?_⟩⟩
  · rw [ofReading_of_describes (ofReading_eq_ok_iff.2 ⟨hcomplete, hes⟩)]
    refine ⟨fun h => ?_, fun h => ?_⟩
    · obtain ⟨list, os, hlist, hos, hes, -⟩ := h.exists_ofList
      exact ⟨list, os, hlist, hos, hes⟩
    · obtain ⟨i, error, hfirst, hi⟩ := exists_firstRefused h
      exact ⟨i, error, hfirst, ofEntries_of_firstRefused hfirst hi⟩
  · exact Entry.mapM_build_toEntry hbuilt
  · obtain ⟨os, hos, hholds⟩ := exists_ofList hn
    refine ⟨os, hholds, fun es hes => ⟨describes_encode es, ?_⟩⟩
    rw [ofReading_of_describes (ofReading_eq_ok_iff.2 ⟨rfl, describes_encode es⟩),
      ofEntries_eq_ofList hes, hos]

/-- The documents for boxes and pairs: both in one, boxes twice, and boxes twice the second time with a
template that cannot be read. -/
theorem load_exact_boxes :
    let boxes : Override := ⟨"Lib.Box<>", .rename "Crate", false⟩
    let pairs : Override := ⟨"Lib.Pair<,>", .template ⟨[.argument 1, .literal "/", .argument 0]⟩, true⟩
    let pairEntry : Entry := ⟨"Lib.Pair<,>", .template "\x7b+1\x7d/\x7b00\x7d", true⟩
    let broken : Entry := ⟨"Lib.Box<>", .template "\x7b", false⟩
    (∃ os : Overrides, os.Holds [boxes, pairs] ∧
      ofReading ⟨encode [boxes.toEntry, pairEntry], true⟩ = .ok os ∧
      ofReading ⟨encode [boxes.toEntry, pairs.toEntry], true⟩ = .ok os) ∧
    (∃ i, FirstRefused [pairEntry, boxes.toEntry, boxes.toEntry, broken] i (.duplicate "Lib.Box<>")) ∧
    ∃ i, FirstRefused [pairEntry, boxes.toEntry, broken, pairEntry] i
      (.template "Lib.Box<>" "\x7b" .unbalanced) := by
  intro boxes pairs pairEntry broken
  obtain ⟨hload, hback⟩ := load_exact
  have hpairs : pairEntry.build = .ok pairs := by rfl
  have hbuilt : ∀ o ∈ [boxes, pairs], ∃ e : Entry, e.build = .ok o := by
    simpa using ⟨⟨boxes.toEntry, rfl⟩, ⟨pairEntry, hpairs⟩⟩
  obtain ⟨hwritten, os, hholds, hos⟩ := hback [boxes, pairs] hbuilt (by decide)
  have hfirst : ∀ es error, ¬ (es.map Entry.typeName).Nodup →
      (ofReading ⟨encode es, true⟩).map size = .error error → ∃ i, FirstRefused es i error := by
    intro es error hn herror
    have hrefused := (hload ⟨encode es, true⟩ es rfl (describes_encode es)).2 fun h => hn h.2
    obtain ⟨i, error', hfirst, herror'⟩ := hrefused
    rw [herror'] at herror
    obtain rfl := Except.error.inj herror
    exact ⟨i, hfirst⟩
  refine ⟨⟨os, hholds, (hos _ ?_).2, (hos _ hwritten).2⟩, ?_, ?_⟩
  · simp only [List.mapM_cons, hpairs]
    rfl
  · exact hfirst _ _ (by decide) (by decide +kernel)
  · exact hfirst _ _ (by decide) (by decide +kernel)

end Overrides
end TypeBridge
