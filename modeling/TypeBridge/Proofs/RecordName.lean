import TypeBridge.Mapping.Mapper
import TypeBridge.Proofs.TargetSyntax

/-!
# Names of record types

A record type is named after its members. In their names all but letters and digits becomes a low line, so
that an identifier comes out (`isIdentifier_recordName`), and low lines stand between the names too. What can
be read from the name of a record type are thus the parts between low lines, and not to which members they
belong (`splitOn_recordName`). Types share a name just when these parts are the same (`recordName_eq_iff`).
When no member has a low line in its name, the parts are the names of the members (`record_names_agree`);
otherwise two members can pass for one (`record_names_collide`).
-/

namespace TypeBridge

def plainChar (c : Char) : Char :=
  if c.isAlphanum then c else '_'

/-- The parts of a member's name that stay apart in the name of a record type. -/
def nameParts (name : String) : List (List Char) :=
  name.toList.splitOnP fun c => !c.isAlphanum

/-! ### Characters -/

theorem isIdentifierChar_plainChar (c : Char) : isIdentifierChar (plainChar c) = true := by
  unfold plainChar
  split_ifs with hc
  · rw [isIdentifierChar, hc, Bool.true_or]
  · rfl

theorem plainChar_of_isIdentifierChar {c : Char} (hc : isIdentifierChar c = true) : plainChar c = c := by
  simp only [isIdentifierChar, Bool.or_eq_true, beq_iff_eq] at hc
  rcases hc with hc | rfl
  · exact if_pos hc
  · rfl

/-! ### Cutting -/

/-- Where a separator stands before each piece, cutting at separators cuts the pieces. -/
theorem splitOnP_append_flatMap {α β : Type} {p : α → Bool} {separator : α} (hs : p separator = true)
    (piece : β → List α) (before : List α) (xs : List β) :
    (before ++ xs.flatMap fun x => separator :: piece x).splitOnP p =
      before.splitOnP p ++ xs.flatMap fun x => (piece x).splitOnP p := by
  induction xs generalizing before with
  | nil => simp
  | cons x xs ih =>
    rw [List.flatMap_cons, List.cons_append, List.splitOnP_append_cons _ _ hs, ih, List.flatMap_cons]

/-- Cutting at the characters that become low lines, before they do or after. -/
theorem splitOn_map_plainChar (cs : List Char) :
    (cs.map plainChar).splitOn '_' = cs.splitOnP fun c => !c.isAlphanum := by
  rw [List.splitOn_eq_splitOnP]
  induction cs with
  | nil => rfl
  | cons c cs ih =>
    rw [List.map_cons, List.splitOnP_cons_eq_if_modifyHead, List.splitOnP_cons_eq_if_modifyHead, ih,
      plainChar]
    cases hc : c.isAlphanum with
    | false => rfl
    | true =>
      have hlow : c ≠ '_' := by
        rintro rfl
        exact absurd hc (by decide)
      simp [hlow]

/-! ### Names and their parts -/

theorem nameParts_of_isIdentifier {name : String} (h : IsIdentifier name) :
    nameParts name = name.toList.splitOn '_' := by
  have hsame : name.toList.map plainChar = name.toList :=
    (List.map_congr_left fun c hc => plainChar_of_isIdentifierChar (h.2 c hc)).trans (List.map_id _)
  rw [nameParts, ← splitOn_map_plainChar, hsame]

theorem nameParts_of_not_mem {name : String} (h : IsIdentifier name) (hlow : '_' ∉ name.toList) :
    nameParts name = [name.toList] := by
  rw [nameParts_of_isIdentifier h, List.splitOn_eq_singleton hlow]

theorem toList_recordName (members : List (String × Handle)) :
    (recordName members).toList =
      "Anon".toList ++ (members.map (·.1)).flatMap fun name => '_' :: name.toList.map plainChar := by
  rw [recordName, String.toList_append, String.toList_join, List.flatMap_map, List.flatMap_map]
  simp only [String.toList_append, String.toList_map]
  rfl

theorem splitOn_recordName (members : List (String × Handle)) :
    (recordName members).toList.splitOn '_' =
      "Anon".toList :: (members.map (·.1)).flatMap nameParts := by
  rw [toList_recordName, List.splitOn_eq_splitOnP, splitOnP_append_flatMap (by decide)]
  simp only [← List.splitOn_eq_splitOnP, splitOn_map_plainChar]
  rfl

theorem recordName_eq_iff {members members' : List (String × Handle)} :
    recordName members = recordName members' ↔
      (members.map (·.1)).flatMap nameParts = (members'.map (·.1)).flatMap nameParts := by
  constructor
  · intro hnames
    have hcut := congrArg (fun name : String => name.toList.splitOn '_') hnames
    simpa only [splitOn_recordName, List.cons.injEq, true_and] using hcut
  · intro hparts
    -- what was cut can be put together again
    have hjoin : ∀ ms, (recordName ms).toList =
        ['_'].intercalate ("Anon".toList :: (ms.map (·.1)).flatMap nameParts) := by
      intro ms
      rw [← splitOn_recordName, List.intercalate_splitOn]
    rw [← String.toList_inj, hjoin, hparts, ← hjoin]

theorem recordName_congr {members members' : List (String × Handle)}
    (h : members.map (·.1) = members'.map (·.1)) : recordName members = recordName members' :=
  recordName_eq_iff.2 (by rw [h])

theorem isIdentifier_recordName (members : List (String × Handle)) :
    IsIdentifier (recordName members) := by
  have hanon : IsIdentifier "Anon" := by decide
  refine ⟨fun hempty => ?_, fun c hc => ?_⟩
  · have hchars := toList_recordName members
    rw [hempty] at hchars
    cases hchars
  · rw [toList_recordName, List.mem_append, List.mem_flatMap] at hc
    rcases hc with hc | ⟨name, -, hc⟩
    · exact hanon.2 c hc
    · rcases List.mem_cons.1 hc with rfl | hc
      · rfl
      · obtain ⟨c', -, rfl⟩ := List.mem_map.1 hc
        exact isIdentifierChar_plainChar c'

/-! ### The names of the members -/

/-- Record types whose members are named by identifiers share a name just when the parts of these between
low lines are the same. So they share a name when their members have the same names in the same order, and
where no member has a low line in its name they share it then only. -/
theorem record_names_agree {members members' : List (String × Handle)}
    (hident : ∀ name ∈ members.map (·.1) ++ members'.map (·.1), IsIdentifier name) :
    (recordName members = recordName members' ↔
      ((members.map (·.1)).flatMap fun name => name.toList.splitOn '_') =
        (members'.map (·.1)).flatMap fun name => name.toList.splitOn '_') ∧
    (members.map (·.1) = members'.map (·.1) → recordName members = recordName members') ∧
    ((∀ name ∈ members.map (·.1) ++ members'.map (·.1), '_' ∉ name.toList) →
      (recordName members = recordName members' ↔ members.map (·.1) = members'.map (·.1))) := by
  have hl := fun name hname => hident name (List.mem_append_left _ hname)
  have hr := fun name hname => hident name (List.mem_append_right _ hname)
  refine ⟨?_, recordName_congr, fun hlow => ⟨fun hnames => ?_, recordName_congr⟩⟩
  · rw [recordName_eq_iff, List.flatMap_congr fun name hname => nameParts_of_isIdentifier (hl name hname),
      List.flatMap_congr fun name hname => nameParts_of_isIdentifier (hr name hname)]
  · have hparts := recordName_eq_iff.1 hnames
    -- each name is a part
    rw [List.flatMap_congr fun name hname =>
        nameParts_of_not_mem (hl name hname) (hlow name (List.mem_append_left _ hname)),
      List.flatMap_congr fun name hname =>
        nameParts_of_not_mem (hr name hname) (hlow name (List.mem_append_right _ hname)),
      ← List.map_eq_flatMap, ← List.map_eq_flatMap] at hparts
    exact List.map_injective_iff.2 (fun _ _ => String.toList_inj.1) hparts

theorem record_names_agree_swapped :
    (∀ name ∈ [("Id", 0), ("Name", 1)].map Prod.fst ++ [("Name", 1), ("Id", 0)].map Prod.fst,
      IsIdentifier name ∧ '_' ∉ name.toList) ∧
    recordName [("Id", 0), ("Name", 1)] ≠ recordName [("Name", 1), ("Id", 0)] := by
  have hnames : ∀ name ∈ [("Id", 0), ("Name", 1)].map Prod.fst ++ [("Name", 1), ("Id", 0)].map Prod.fst,
      IsIdentifier name ∧ '_' ∉ name.toList := by decide
  refine ⟨hnames, fun hsame => ?_⟩
  have horder := ((record_names_agree fun name h => (hnames name h).1).2.2
    fun name h => (hnames name h).2).1 hsame
  exact absurd horder (by decide)

/-- Two members pass for one that has a low line in its name. -/
theorem record_names_collide :
    ¬ ∀ members members' : List (String × Handle),
      (∀ name ∈ members.map (·.1) ++ members'.map (·.1), IsIdentifier name) →
      (recordName members = recordName members' ↔ members.map (·.1) = members'.map (·.1)) := by
  intro h
  have hsame := (h [("a", 0), ("b", 0)] [("a_b", 0)] (by decide)).1 (by decide +kernel)
  exact absurd hsame (by decide)

end TypeBridge
