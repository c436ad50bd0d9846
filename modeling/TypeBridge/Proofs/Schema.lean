import Mathlib.Data.List.Forall2
import Mathlib.Tactic.Common
import TypeBridge.Override.Overrides

/-!
# The schema of override documents

`Describes root es` says, without the decoder, when a document stands for the entries `es`: by how often
each of the members that matter occurs in an element, and by their values. It is what the decoder accepts
(`decode_eq_ok_iff`), which goes through the members once and looks for several of them at the same time.
An element counts by the members that its rule reads, so the others may be added, left out and repeated,
and the order does not matter (`IsEntry.of_rearranged`).
-/

namespace TypeBridge
namespace Document

/-! ### What a document stands for -/

/-- The values of the members with a name, in the order written. -/
def valuesOf (name : String) (members : List (String × Json)) : List Json :=
  (members.filter (·.1 = name)).map (·.2)

namespace RuleName

inductive IsWritten : RuleName → Json → Prop
  | rename : IsWritten .rename (.string "rename")
  | renameNumber : IsWritten .rename (.number (.integer 0))
  | template : IsWritten .template (.string "template")
  | templateNumber : IsWritten .template (.number (.integer 1))

def textField : RuleName → String
  | rename => "to"
  | template => "template"

def fields (rule : RuleName) : List String :=
  ["type", "skip_generic_args", "rule", rule.textField]

end RuleName

namespace EntryRule

def name : EntryRule → RuleName
  | rename _ => .rename
  | template _ => .template

def text : EntryRule → String
  | rename text => text
  | template source => source

end EntryRule

structure Spells (members : List (String × Json)) (e : Entry) : Prop where
  typeName : valuesOf "type" members = [.string e.typeName]
  skipsArguments : valuesOf "skip_generic_args" members = [.bool e.skipsArguments] ∨
    valuesOf "skip_generic_args" members = [] ∧ e.skipsArguments = false
  rule : ∃ v, valuesOf "rule" members = [v] ∧ e.rule.name.IsWritten v
  text : valuesOf e.rule.name.textField members = [.string e.rule.text]

def IsEntry (v : Json) (e : Entry) : Prop :=
  ∃ members, v = .object members true ∧ Spells members e

/-- The document lists the elements: as its one member `overrides`, or as its one element. -/
inductive Lists : Json → List Json → Prop
  | member (items : List Json) : Lists (.object [("overrides", .list items true)] true) items
  | element (items : List Json) : Lists (.list [.list items true] true) items

/-- The elements that the document lists are, one by one, the entries. -/
def Describes (root : Json) (es : List Entry) : Prop :=
  ∃ items, Lists root items ∧ List.Forall₂ IsEntry items es

/-- The second object has the members that are read for the rule of the first one, in any order, and
whatever else. -/
def Rearranged (v v' : Json) : Prop :=
  ∃ members members' : List (String × Json), ∃ rule : RuleName,
    v = .object members true ∧ v' = .object members' true ∧
    (∃ w ∈ valuesOf "rule" members, rule.IsWritten w) ∧
    (members.filter (·.1 ∈ rule.fields)).Perm (members'.filter (·.1 ∈ rule.fields))

/-! ### One member -/

section Members

variable {name : String} {members members' : List (String × Json)} {m : String × Json} {α : Type}
  {read : Json → Except DocumentError α} {a : α} {out : Option α}

theorem bind_eq_ok_iff {ε β : Type} {x : Except ε α} {f : α → Except ε β} {b : β} :
    x >>= f = .ok b ↔ ∃ a, x = .ok a ∧ f a = .ok b := by
  cases x <;> simp [bind, Except.bind]

theorem map_eq_ok_iff {ε β : Type} {x : Except ε α} {f : α → β} {b : β} :
    f <$> x = .ok b ↔ ∃ a, x = .ok a ∧ f a = b := by
  cases x <;> simp [Functor.map, Except.map]

theorem valuesOf_cons_of_eq (h : m.1 = name) :
    valuesOf name (m :: members) = m.2 :: valuesOf name members := by
  simp [valuesOf, h]

theorem valuesOf_cons_of_ne (h : m.1 ≠ name) :
    valuesOf name (m :: members) = valuesOf name members := by
  simp [valuesOf, h]

theorem foldlM_field_some : members.foldlM (field name read) (some a) = .ok out ↔
    valuesOf name members = [] ∧ out = some a := by
  induction members with
  | nil => exact ⟨fun h => ⟨rfl, (Except.ok.inj h).symm⟩, fun h => congrArg Except.ok h.2.symm⟩
  | cons m members ih =>
    rw [List.foldlM_cons]
    by_cases hm : m.1 = name
    · rw [valuesOf_cons_of_eq hm, field, if_pos hm]
      exact ⟨nofun, fun h => nomatch h.1⟩
    · rw [valuesOf_cons_of_ne hm, field, if_neg hm]
      exact ih

theorem foldlM_field_none : members.foldlM (field name read) none = .ok out ↔
    valuesOf name members = [] ∧ out = none ∨
      ∃ v a, valuesOf name members = [v] ∧ read v = .ok a ∧ out = some a := by
  induction members with
  | nil =>
    refine ⟨fun h => .inl ⟨rfl, (Except.ok.inj h).symm⟩, fun h => ?_⟩
    rcases h with ⟨-, rfl⟩ | ⟨v, a, h, -⟩
    · rfl
    · cases h
  | cons m members ih =>
    rw [List.foldlM_cons]
    by_cases hm : m.1 = name
    · have hfield : field name read none m = some <$> read m.2 := if_pos hm
      rw [valuesOf_cons_of_eq hm, hfield, bind_eq_ok_iff]
      constructor
      · rintro ⟨found, hfound, hrest⟩
        obtain ⟨a, ha, rfl⟩ := map_eq_ok_iff.1 hfound
        obtain ⟨hnone, rfl⟩ := foldlM_field_some.1 hrest
        exact .inr ⟨m.2, a, by rw [hnone], ha, rfl⟩
      · rintro (⟨h, -⟩ | ⟨v, a, h, ha, rfl⟩)
        · cases h
        · obtain ⟨rfl, hnone⟩ := List.cons_eq_cons.1 h
          exact ⟨some a, map_eq_ok_iff.2 ⟨a, ha, rfl⟩, foldlM_field_some.2 ⟨hnone, rfl⟩⟩
    · rw [valuesOf_cons_of_ne hm, field, if_neg hm]
      exact ih

theorem required_eq_ok_iff :
    required name read members = .ok a ↔ ∃ v, valuesOf name members = [v] ∧ read v = .ok a := by
  rw [required, bind_eq_ok_iff]
  constructor
  · rintro ⟨found, hfold, h⟩
    rcases foldlM_field_none.1 hfold with ⟨-, rfl⟩ | ⟨v, a', hv, hread, rfl⟩
    · cases h
    · cases h
      exact ⟨v, hv, hread⟩
  · rintro ⟨v, hv, hread⟩
    exact ⟨some a, foldlM_field_none.2 (.inr ⟨v, a, hv, hread, rfl⟩), rfl⟩

end Members

theorem text_eq_ok_iff {v : Json} {s : String} : text v = .ok s ↔ v = .string s := by
  cases v <;> simp [text]

theorem flag_eq_ok_iff {v : Json} {b : Bool} : flag v = .ok b ↔ v = .bool b := by
  cases v <;> simp [flag]

theorem ruleName_eq_ok_iff {v : Json} {rule : RuleName} :
    ruleName v = .ok rule ↔ rule.IsWritten v := by
  constructor
  · intro h
    unfold ruleName at h
    split at h
    · cases h; exact .rename
    · cases h; exact .template
    · cases h
    · split_ifs at h with h0 h1
      · cases h; subst h0; exact .renameNumber
      · cases h; subst h1; exact .templateNumber
    · cases h
  · rintro (_ | _ | _ | _) <;> rfl

/-! ### One entry -/

section Entries

variable {members members' : List (String × Json)} {v v' : Json} {e : Entry} {h h' : Header}

theorem take_eq_ok_iff {m : String × Json} :
    h.take m = .ok h' ↔ field "type" text h.typeName m = .ok h'.typeName ∧
      field "skip_generic_args" flag h.skipsArguments m = .ok h'.skipsArguments := by
  rw [Header.take, bind_eq_ok_iff]
  constructor
  · rintro ⟨typeName, ht, hrest⟩
    obtain ⟨skips, hs, hout⟩ := bind_eq_ok_iff.1 hrest
    obtain rfl := Except.ok.inj hout
    exact ⟨ht, hs⟩
  · rintro ⟨ht, hs⟩
    exact ⟨_, ht, bind_eq_ok_iff.2 ⟨_, hs, rfl⟩⟩

/-- Both members of the header are looked for at once, and each is found as if alone. -/
theorem foldlM_take : members.foldlM Header.take h = .ok h' ↔
    members.foldlM (field "type" text) h.typeName = .ok h'.typeName ∧
      members.foldlM (field "skip_generic_args" flag) h.skipsArguments = .ok h'.skipsArguments := by
  induction members generalizing h with
  | nil =>
    constructor
    · intro hout
      obtain rfl := Except.ok.inj hout
      exact ⟨rfl, rfl⟩
    · rintro ⟨ht, hs⟩
      obtain ⟨typeName, skips⟩ := h
      obtain rfl := Except.ok.inj ht
      obtain rfl := Except.ok.inj hs
      rfl
  | cons m members ih =>
    simp only [List.foldlM_cons, bind_eq_ok_iff]
    constructor
    · rintro ⟨h₁, htake, hrest⟩
      obtain ⟨ht, hs⟩ := take_eq_ok_iff.1 htake
      obtain ⟨ht', hs'⟩ := ih.1 hrest
      exact ⟨⟨_, ht, ht'⟩, ⟨_, hs, hs'⟩⟩
    · rintro ⟨⟨typeName, ht, ht'⟩, ⟨skips, hs, hs'⟩⟩
      exact ⟨⟨typeName, skips⟩, take_eq_ok_iff.2 ⟨ht, hs⟩, ih.2 ⟨ht', hs'⟩⟩

theorem rule_eq_ok_iff {r : EntryRule} :
    rule members = .ok r ↔ (∃ v, valuesOf "rule" members = [v] ∧ r.name.IsWritten v) ∧
      valuesOf r.name.textField members = [.string r.text] := by
  have htext : ∀ {name s}, required name text members = .ok s ↔
      valuesOf name members = [.string s] := by
    intro name s
    simp only [required_eq_ok_iff, text_eq_ok_iff]
    exact ⟨fun ⟨v, hv, hs⟩ => hs ▸ hv, fun hv => ⟨_, hv, rfl⟩⟩
  simp only [rule, bind_eq_ok_iff, required_eq_ok_iff, ruleName_eq_ok_iff]
  constructor
  · rintro ⟨name, hname, hr⟩
    cases name <;>
      obtain ⟨s, hs, rfl⟩ := map_eq_ok_iff.1 hr <;>
      exact ⟨hname, htext.1 hs⟩
  · rintro ⟨hname, hs⟩
    refine ⟨r.name, hname, ?_⟩
    cases r <;> exact map_eq_ok_iff.2 ⟨_, htext.2 hs, rfl⟩

theorem entry_object_eq_ok_iff : entry (.object members true) = .ok e ↔ Spells members e := by
  have hfold : ∀ h : Header, members.foldlM Header.take {} = .ok h ↔
      members.foldlM (field "type" text) none = .ok h.typeName ∧
        members.foldlM (field "skip_generic_args" flag) none = .ok h.skipsArguments :=
    fun h => foldlM_take
  rw [entry, bind_eq_ok_iff]
  constructor
  · rintro ⟨⟨typeName, skips⟩, hheader, hrest⟩
    obtain ⟨ht, hs⟩ := (hfold _).1 hheader
    rcases foldlM_field_none.1 ht with ⟨-, hnone⟩ | ⟨v, s, hv, hread, hsome⟩
    · subst hnone
      cases hrest
    · subst hsome
      obtain ⟨r, hr, hout⟩ := bind_eq_ok_iff.1 hrest
      obtain rfl := Except.ok.inj hout
      obtain ⟨hname, htext⟩ := rule_eq_ok_iff.1 hr
      refine ⟨hv.trans (by rw [text_eq_ok_iff.1 hread]), ?_, hname, htext⟩
      rcases foldlM_field_none.1 hs with ⟨hno, hnone⟩ | ⟨w, b, hw, hflag, hsome⟩
      · subst hnone
        exact .inr ⟨hno, rfl⟩
      · subst hsome
        exact .inl (hw.trans (by rw [flag_eq_ok_iff.1 hflag]; rfl))
  · intro hspells
    have ht : members.foldlM (field "type" text) none = .ok (some e.typeName) :=
      foldlM_field_none.2 (.inr ⟨_, _, hspells.typeName, rfl, rfl⟩)
    obtain ⟨skips, hs, hget⟩ : ∃ skips,
        members.foldlM (field "skip_generic_args" flag) none = .ok skips ∧
          skips.getD false = e.skipsArguments := by
      rcases hspells.skipsArguments with hb | ⟨hno, hfalse⟩
      · exact ⟨some e.skipsArguments, foldlM_field_none.2 (.inr ⟨_, _, hb, rfl, rfl⟩), rfl⟩
      · exact ⟨none, foldlM_field_none.2 (.inl ⟨hno, rfl⟩), hfalse.symm⟩
    refine ⟨⟨some e.typeName, skips⟩, (hfold _).2 ⟨ht, hs⟩, ?_⟩
    have hrule := rule_eq_ok_iff.2 ⟨hspells.rule, hspells.text⟩
    exact bind_eq_ok_iff.2 ⟨e.rule, hrule, by simp only [hget]; rfl⟩

theorem entry_eq_ok_iff : entry v = .ok e ↔ IsEntry v e := by
  constructor
  · intro h
    cases v with
    | object members closed =>
      cases closed with
      | true => exact ⟨members, rfl, entry_object_eq_ok_iff.1 h⟩
      | false =>
        rw [entry, bind_eq_ok_iff] at h
        obtain ⟨header, -, hrest⟩ := h
        cases hrest
    | _ => cases h
  · rintro ⟨members, rfl, hspells⟩
    exact entry_object_eq_ok_iff.2 hspells

end Entries

/-! ### All entries -/

theorem mapM_entry_eq_ok_iff {items : List Json} {es : List Entry} :
    items.mapM entry = .ok es ↔ List.Forall₂ IsEntry items es := by
  induction items generalizing es with
  | nil =>
    rw [List.forall₂_nil_left_iff]
    exact ⟨fun h => (Except.ok.inj h).symm, fun h => congrArg Except.ok h.symm⟩
  | cons v items ih =>
    simp only [List.mapM_cons, bind_eq_ok_iff, entry_eq_ok_iff, ih]
    constructor
    · rintro ⟨e, he, es', hes, hout⟩
      obtain rfl := Except.ok.inj hout
      exact .cons he hes
    · rintro (_ | ⟨he, hes⟩)
      exact ⟨_, he, _, hes, rfl⟩

theorem entries_eq_ok_iff {v : Json} {es : List Entry} :
    entries v = .ok es ↔ ∃ items, v = .list items true ∧ List.Forall₂ IsEntry items es := by
  constructor
  · intro h
    cases v with
    | list items closed =>
      rw [entries, bind_eq_ok_iff] at h
      obtain ⟨es', hes, hout⟩ := h
      cases closed with
      | true =>
        obtain rfl := Except.ok.inj hout
        exact ⟨items, rfl, mapM_entry_eq_ok_iff.1 hes⟩
      | false => cases hout
    | _ => cases h
  · rintro ⟨items, rfl, hes⟩
    exact bind_eq_ok_iff.2 ⟨es, mapM_entry_eq_ok_iff.2 hes, rfl⟩

theorem foldlM_takeEntries_some {members : List (String × Json)} {es : List Entry}
    {out : Option (List Entry)} :
    members.foldlM takeEntries (some es) = .ok out ↔ members = [] ∧ out = some es := by
  cases members with
  | nil => exact ⟨fun h => ⟨rfl, (Except.ok.inj h).symm⟩, fun h => congrArg Except.ok h.2.symm⟩
  | cons m members =>
    rw [List.foldlM_cons, takeEntries]
    refine ⟨fun h => ?_, fun h => nomatch h.1⟩
    split_ifs at h with hm
    · rw [field, if_pos hm] at h
      cases h
    · cases h

theorem foldlM_takeEntries_none {members : List (String × Json)} {es : List Entry} :
    members.foldlM takeEntries none = .ok (some es) ↔
      ∃ v, members = [("overrides", v)] ∧ entries v = .ok es := by
  cases members with
  | nil => exact ⟨nofun, nofun⟩
  | cons m members =>
    rw [List.foldlM_cons, bind_eq_ok_iff]
    constructor
    · rintro ⟨found, hfound, hrest⟩
      rw [takeEntries] at hfound
      split_ifs at hfound with hm
      have hread : some <$> entries m.2 = .ok found := (if_pos hm).symm.trans hfound
      obtain ⟨es', hes, rfl⟩ := map_eq_ok_iff.1 hread
      obtain ⟨rfl, hsome⟩ := foldlM_takeEntries_some.1 hrest
      obtain rfl := Option.some.inj hsome
      exact ⟨m.2, by rw [← hm], hes⟩
    · rintro ⟨v, hm, hes⟩
      obtain ⟨rfl, rfl⟩ := List.cons_eq_cons.1 hm
      exact ⟨some es, map_eq_ok_iff.2 ⟨es, hes, rfl⟩, rfl⟩

/-- The decoder accepts a document for the entries that it describes. -/
theorem decode_eq_ok_iff {root : Json} {es : List Entry} :
    decode root = .ok es ↔ Describes root es := by
  constructor
  · intro h
    cases root with
    | object members closed =>
      rw [decode, bind_eq_ok_iff] at h
      obtain ⟨found, hfound, hrest⟩ := h
      cases closed with
      | false => cases hrest
      | true =>
        cases found with
        | none => cases hrest
        | some es' =>
          obtain rfl := Except.ok.inj hrest
          obtain ⟨v, rfl, hes⟩ := foldlM_takeEntries_none.1 hfound
          obtain ⟨items, rfl, hitems⟩ := entries_eq_ok_iff.1 hes
          exact ⟨items, .member items, hitems⟩
    | list items closed =>
      cases items with
      | nil => cases h
      | cons first rest =>
        rw [decode, bind_eq_ok_iff] at h
        obtain ⟨es', hes, hrest⟩ := h
        split_ifs at hrest with hend
        obtain rfl := Except.ok.inj hrest
        obtain ⟨hrest, rfl⟩ := Bool.and_eq_true_iff.1 hend
        obtain rfl := List.isEmpty_iff.1 hrest
        obtain ⟨items, rfl, hitems⟩ := entries_eq_ok_iff.1 hes
        exact ⟨items, .element items, hitems⟩
    | _ => cases h
  · rintro ⟨items, hlists, hitems⟩
    have hes : entries (.list items true) = .ok es := entries_eq_ok_iff.2 ⟨items, rfl, hitems⟩
    cases hlists with
    | member =>
      rw [decode, bind_eq_ok_iff]
      exact ⟨some es, foldlM_takeEntries_none.2 ⟨_, rfl, hes⟩, rfl⟩
    | element =>
      rw [decode, bind_eq_ok_iff]
      exact ⟨es, hes, rfl⟩

theorem ofReading_eq_ok_iff {reading : Json.Reading} {es : List Entry} :
    ofReading reading = .ok es ↔ reading.complete = true ∧ Describes reading.root es := by
  rw [ofReading, bind_eq_ok_iff]
  simp only [decode_eq_ok_iff]
  constructor
  · rintro ⟨es', hes, hout⟩
    split_ifs at hout with hcomplete
    obtain rfl := Except.ok.inj hout
    exact ⟨hcomplete, hes⟩
  · rintro ⟨hcomplete, hes⟩
    exact ⟨es, hes, if_pos hcomplete⟩

/-! ### What does not matter in an element -/

section Elements

variable {members members' : List (String × Json)} {v v' : Json} {e : Entry}

theorem RuleName.IsWritten.unique {rule rule' : RuleName} (h : rule.IsWritten v)
    (h' : rule'.IsWritten v) : rule = rule' :=
  Except.ok.inj ((ruleName_eq_ok_iff.2 h).symm.trans (ruleName_eq_ok_iff.2 h'))

theorem valuesOf_perm {fields : List String} {name : String} (hname : name ∈ fields)
    (hp : (members.filter (·.1 ∈ fields)).Perm (members'.filter (·.1 ∈ fields))) :
    (valuesOf name members).Perm (valuesOf name members') := by
  have hsub : ∀ members : List (String × Json),
      valuesOf name members = valuesOf name (members.filter (·.1 ∈ fields)) := by
    intro members
    rw [valuesOf, valuesOf, List.filter_filter]
    congr 1
    refine List.filter_congr fun m _ => ?_
    by_cases hm : m.1 = name <;> simp [hm, hname]
  rw [hsub members, hsub members']
  exact (hp.filter _).map _

/-- Each member that is read occurs once at most, so its order is no matter. -/
theorem Spells.of_perm (hs : Spells members e)
    (hp : (members.filter (·.1 ∈ e.rule.name.fields)).Perm
      (members'.filter (·.1 ∈ e.rule.name.fields))) : Spells members' e := by
  have hone : ∀ name ∈ e.rule.name.fields, ∀ v, valuesOf name members = [v] →
      valuesOf name members' = [v] := by
    intro name hname v hv
    have hperm := valuesOf_perm hname hp
    rw [hv] at hperm
    exact List.perm_singleton.1 hperm.symm
  obtain ⟨htype, hskips, hrule, htext⟩ : "type" ∈ e.rule.name.fields ∧
      "skip_generic_args" ∈ e.rule.name.fields ∧ "rule" ∈ e.rule.name.fields ∧
        e.rule.name.textField ∈ e.rule.name.fields := by
    simp [RuleName.fields]
  obtain ⟨v, hv, hwritten⟩ := hs.rule
  refine ⟨hone _ htype _ hs.typeName, ?_, ⟨v, hone _ hrule v hv, hwritten⟩, hone _ htext _ hs.text⟩
  rcases hs.skipsArguments with hb | ⟨hno, hfalse⟩
  · exact .inl (hone _ hskips _ hb)
  · have hperm := valuesOf_perm hskips hp
    rw [hno] at hperm
    exact .inr ⟨List.perm_nil.1 hperm.symm, hfalse⟩

theorem IsEntry.of_rearranged (he : IsEntry v e) (hv : Rearranged v v') : IsEntry v' e := by
  obtain ⟨members, rfl, hspells⟩ := he
  obtain ⟨_, members', rule, hm, rfl, ⟨w, hw, hrule⟩, hp⟩ := hv
  obtain rfl := (Json.object.inj hm).1
  obtain ⟨v, hv, hwritten⟩ := hspells.rule
  rw [hv, List.mem_singleton] at hw
  subst hw
  obtain rfl := hrule.unique hwritten
  exact ⟨members', rfl, hspells.of_perm hp⟩

theorem forall₂_of_rearranged {items items' : List Json} {es : List Entry}
    (hes : List.Forall₂ IsEntry items es) (hitems : List.Forall₂ Rearranged items items') :
    List.Forall₂ IsEntry items' es := by
  induction hes generalizing items' with
  | nil =>
    obtain rfl := List.forall₂_nil_left_iff.1 hitems
    exact .nil
  | cons he _ ih =>
    cases hitems with
    | cons hv hrest => exact .cons (he.of_rearranged hv) (ih hrest)

theorem Lists.unique {root : Json} {items items' : List Json} (h : Lists root items)
    (h' : Lists root items') : items = items' := by
  cases h <;> cases h' <;> rfl

theorem Describes.of_rearranged {root root' : Json} {items items' : List Json} {es : List Entry}
    (hd : Describes root es) (h : Lists root items) (h' : Lists root' items')
    (hitems : List.Forall₂ Rearranged items items') : Describes root' es := by
  obtain ⟨listed, hlists, hes⟩ := hd
  obtain rfl := h.unique hlists
  exact ⟨items', h', forall₂_of_rearranged hes hitems⟩

end Elements

end Document

namespace Overrides

open Document

theorem bind_ne_error {ε α β : Type} {x : Except ε α} {f : α → Except ε β} {e : ε}
    (hx : x ≠ .error e) (hf : ∀ a, f a ≠ .error e) : x >>= f ≠ .error e := by
  cases x with
  | ok a => exact hf a
  | error e' => exact fun h => hx (congrArg Except.error (Except.error.inj h))

theorem ofEntries_ne_document (es : List Entry) (e : DocumentError) :
    ofEntries es ≠ .error (.document e) := by
  have hentry : ∀ entry, Override.ofEntry entry ≠ .error (.document e) := by
    intro entry
    unfold Override.ofEntry
    cases entry.rule with
    | rename text => exact nofun
    | template source =>
      cases hp : Template.parse source with
      | ok t => simp only [hp]; exact nofun
      | error e' => simp only [hp]; exact nofun
  have hinsert : ∀ (os : Overrides) o, os.insert o ≠ .error (.document e) := by
    intro os o
    unfold insert
    split_ifs <;> exact nofun
  have hfold : ∀ os, es.foldlM (fun os entry => do os.insert (← Override.ofEntry entry)) os ≠
      (.error (.document e) : Except LoadError Overrides) := by
    induction es with
    | nil => exact fun os => nofun
    | cons entry es ih =>
      intro os
      rw [List.foldlM_cons]
      exact bind_ne_error (bind_ne_error (hentry entry) (hinsert os)) ih
  exact hfold empty

theorem ofReading_of_describes {reading : Json.Reading} {es : List Entry}
    (h : Document.ofReading reading = .ok es) : ofReading reading = ofEntries es := by
  rw [ofReading, h]
  rfl

theorem ofReading_ne_document_iff {reading : Json.Reading} :
    (∀ e, ofReading reading ≠ .error (.document e)) ↔ ∃ es, Document.ofReading reading = .ok es := by
  cases h : Document.ofReading reading with
  | ok es =>
    rw [ofReading_of_describes h]
    exact ⟨fun _ => ⟨es, rfl⟩, fun _ => ofEntries_ne_document es⟩
  | error e =>
    refine ⟨fun hne => absurd ?_ (hne e), nofun⟩
    rw [ofReading, h]
    rfl

/-- A text gets past the schema just when all of it is a document that lists elements each of which spells
an entry. These entries are all that is decoded: when the elements are rearranged, or listed in the other
form of a document, the outcome is the same. -/
theorem schema_exact (reading : Json.Reading) :
    ((∀ e, ofReading reading ≠ .error (.document e)) ↔
      reading.complete = true ∧ ∃ es, Describes reading.root es) ∧
    ∀ es, Describes reading.root es → reading.complete = true →
      Document.ofReading reading = .ok es ∧
      ∀ items, Lists reading.root items → ∀ root' items', Lists root' items' →
        List.Forall₂ Rearranged items items' → ofReading ⟨root', true⟩ = ofReading reading := by
  refine ⟨?_, fun es hes hcomplete => ?_⟩
  · rw [ofReading_ne_document_iff]
    simp only [ofReading_eq_ok_iff, exists_and_left]
  · have hread : Document.ofReading reading = .ok es := ofReading_eq_ok_iff.2 ⟨hcomplete, hes⟩
    refine ⟨hread, fun items hlists root' items' hlists' hitems => ?_⟩
    have hes' := hes.of_rearranged hlists hlists' hitems
    have hread' : Document.ofReading ⟨root', true⟩ = .ok es := ofReading_eq_ok_iff.2 ⟨rfl, hes'⟩
    rw [ofReading_of_describes hread, ofReading_of_describes hread']

/-- An entry for boxes, with members of the other rule in it. It is given again in a list of one element,
with its members the other way around and other members between them. -/
theorem schema_exact_boxes :
    let typeName := ("type", Json.string "Lib.Box<>")
    let target := ("to", Json.string "Crate")
    let root : Json := .object [("overrides", .list [.object
      [typeName, ("rule", .string "rename"), ("template", .null), target, ("template", .null)] true]
      true)] true
    let root' : Json := .list [.list [.object
      [target, ("note", .bool true), ("rule", .string "rename"), typeName, ("note", .null)] true] true] true
    Document.ofReading ⟨root, true⟩ = .ok [⟨"Lib.Box<>", .rename "Crate", false⟩] ∧
      ofReading ⟨root', true⟩ = ofReading ⟨root, true⟩ := by
  intro typeName target root root'
  have hentry : Describes root [⟨"Lib.Box<>", .rename "Crate", false⟩] :=
    decode_eq_ok_iff.1 rfl
  obtain ⟨hread, hsame⟩ := (schema_exact ⟨root, true⟩).2 _ hentry rfl
  refine ⟨hread, hsame _ (.member _) root' _ (.element _) (.cons ?_ .nil)⟩
  refine ⟨_, _, .rename, rfl, rfl, ⟨.string "rename", ?_, .rename⟩, ?_⟩
  · simp [valuesOf, typeName, target]
  · simpa [RuleName.fields, RuleName.textField, typeName, target] using
      (List.reverse_perm [typeName, ("rule", Json.string "rename"), target]).symm

end Overrides
end TypeBridge
