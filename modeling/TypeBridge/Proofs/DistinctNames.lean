import TypeBridge.Proofs.Loading

/-!
# Overrides with distinct names

A list of overrides makes a set when all names in it are distinct. The set `Holds` what is in the list, so
it is the same for every order of the list (`Holds.unique`). Otherwise there is a first override whose name
has occurred before it: those before it make a set, which refuses it, and what comes after it is not read.
-/

namespace TypeBridge.Overrides

variable {os os' : Overrides} {list list' before after : List Override} {o : Override} {i : Nat}
  {name : String}

/-- The override at `i` has the name of one before it. -/
def Repeated (list : List Override) (i : Nat) (name : String) : Prop :=
  ∃ o, list[i]? = some o ∧ o.typeName = name ∧ name ∈ (list.take i).map (·.typeName)

/-- The override at `i` has the name of one before it, and none before it has. -/
structure FirstRepeated (list : List Override) (i : Nat) (name : String) : Prop where
  repeated : Repeated list i name
  earlier : ∀ j < i, ∀ name', ¬ Repeated list j name'

theorem Holds.unique (h : os.Holds list) (h' : os'.Holds list') (hp : list'.Perm list) : os' = os := by
  have hlookup : ∀ name, os'.lookup name = os.lookup name := by
    intro name
    refine Option.ext fun o => ?_
    rw [h'.lookup, h.lookup, hp.mem_iff]
  exact congrArg Overrides.mk (Std.ExtTreeMap.ext_getElem? hlookup)

theorem exists_firstRepeated (hn : ¬ (list.map (·.typeName)).Nodup) :
    ∃ i name, FirstRepeated list i name ∧ ((list.take i).map (·.typeName)).Nodup := by
  obtain ⟨i, o, ho, hlost, hkept⟩ :=
    exists_first_of_not (P := fun l : List Override => (l.map (·.typeName)).Nodup) List.nodup_nil hn
  have hi := hkept i (Nat.le_refl i)
  have hm : o.typeName ∈ (list.take i).map (·.typeName) := by
    by_contra hnew
    exact hlost (nodup_map_concat_iff.2 ⟨hi, hnew⟩)
  refine ⟨i, o.typeName, ⟨⟨o, ho, rfl, hm⟩, ?_⟩, hi⟩
  rintro j hj name' ⟨o', ho', rfl, hm'⟩
  have hdistinct := hkept (j + 1) hj
  rw [List.take_add_one, ho'] at hdistinct
  exact (nodup_map_concat_iff.1 hdistinct).2 hm'

theorem ofList_of_mem (hn : (before.map (·.typeName)).Nodup)
    (hm : o.typeName ∈ before.map (·.typeName)) :
    ofList (before ++ o :: after) = .error (.duplicate o.typeName) := by
  obtain ⟨os, hos, hholds⟩ := exists_ofList hn
  have hbefore : before.foldlM insert empty = .ok os := hos
  have hinsert : os.insert o = .error (.duplicate o.typeName) := if_pos (hholds.mem_iff.2 hm)
  rw [ofList, foldlM_append_cons_of_ok hbefore, hinsert]
  rfl

theorem ofList_of_firstRepeated (h : FirstRepeated list i name)
    (hi : ((list.take i).map (·.typeName)).Nodup) : ofList list = .error (.duplicate name) := by
  obtain ⟨o, ho, rfl, hm⟩ := h.repeated
  rw [eq_take_append_cons ho]
  exact ofList_of_mem hi hm

/-- A list makes a set just when the names in it are distinct. The set has as many overrides as the list,
finds each of them under its name and nothing else, and is the same for the list in any other order. If the
names are not distinct, the first one that has occurred before it is named in the error. -/
theorem ofList_exact (list : List Override) :
    ((∃ os, ofList list = .ok os) ↔ (list.map (·.typeName)).Nodup) ∧
    (∀ os, ofList list = .ok os →
      os.size = list.length ∧
      (∀ name o, os.lookup name = some o ↔ o ∈ list ∧ o.typeName = name) ∧
      ∀ list' : List Override, list'.Perm list → ofList list' = .ok os) ∧
    (¬ (list.map (·.typeName)).Nodup →
      ∃ i name, FirstRepeated list i name ∧ ofList list = .error (.duplicate name)) := by
  have hrepeated : ¬ (list.map (·.typeName)).Nodup →
      ∃ i name, FirstRepeated list i name ∧ ofList list = .error (.duplicate name) := by
    intro hn
    obtain ⟨i, name, hfirst, hi⟩ := exists_firstRepeated hn
    exact ⟨i, name, hfirst, ofList_of_firstRepeated hfirst hi⟩
  have hdistinct : ∀ os, ofList list = .ok os → (list.map (·.typeName)).Nodup := by
    intro os hos
    by_contra hn
    obtain ⟨i, name, -, herror⟩ := hrepeated hn
    cases hos.symm.trans herror
  refine ⟨⟨fun ⟨os, hos⟩ => hdistinct os hos, fun hn => ?_⟩, fun os hos => ?_, hrepeated⟩
  · obtain ⟨os, hos, -⟩ := exists_ofList hn
    exact ⟨os, hos⟩
  · have hn := hdistinct os hos
    obtain ⟨os₁, hos₁, hholds⟩ := exists_ofList hn
    obtain rfl := Except.ok.inj (hos₁.symm.trans hos)
    refine ⟨hholds.size, hholds.lookup, fun list' hp => ?_⟩
    obtain ⟨os', hos', hholds'⟩ := exists_ofList ((hp.map _).nodup_iff.2 hn)
    rw [hos', hholds.unique hholds' hp]

/-- Boxes and pairs in both orders; and a list in which boxes come again, and pairs after them. -/
theorem ofList_exact_boxes :
    let boxes := Override.rename "Lib.Box<>" "Crate"
    let pairs := Override.rename "Lib.Pair<,>" "Duo"
    let again := Override.rename "Lib.Box<>" "Chest"
    (∃ os, ofList [boxes, pairs] = .ok os ∧ ofList [pairs, boxes] = .ok os ∧
      os.size = 2 ∧ os.lookup "Lib.Box<>" = some boxes ∧ os.lookup "Lib.Box" = none) ∧
    ∃ i, FirstRepeated [boxes, pairs, again, pairs] i "Lib.Box<>" ∧
      ofList [boxes, pairs, again, pairs] = .error (.duplicate "Lib.Box<>") := by
  intro boxes pairs again
  obtain ⟨hdistinct, hset, -⟩ := ofList_exact [boxes, pairs]
  obtain ⟨os, hos⟩ := hdistinct.2 (by decide)
  obtain ⟨hsize, hlookup, horder⟩ := hset os hos
  refine ⟨⟨os, hos, horder _ (.swap ..), hsize, (hlookup _ _).2 ⟨by simp, rfl⟩, ?_⟩, ?_⟩
  · refine Option.eq_none_iff_forall_ne_some.2 fun o ho => ?_
    obtain ⟨hmem, hname⟩ := (hlookup _ o).1 ho
    simp only [List.mem_cons, List.not_mem_nil, or_false] at hmem
    rcases hmem with rfl | rfl <;> exact absurd hname (by decide)
  · obtain ⟨-, -, hrepeated⟩ := ofList_exact [boxes, pairs, again, pairs]
    obtain ⟨i, name, hfirst, herror⟩ := hrepeated (by decide)
    have hname : (ofList [boxes, pairs, again, pairs]).map size = .error (.duplicate "Lib.Box<>") := by
      decide +kernel
    rw [herror] at hname
    obtain rfl := LoadError.duplicate.inj (Except.error.inj hname)
    exact ⟨i, hfirst, herror⟩

end TypeBridge.Overrides
