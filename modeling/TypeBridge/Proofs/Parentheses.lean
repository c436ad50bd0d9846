import TypeBridge.Proofs.Depth
import TypeBridge.Proofs.History
import TypeBridge.Proofs.Marks

/-!
# Arrows and parentheses

A function type is written in parentheses, with arrows between its parameters and its result, and each of
these may have arrows and parentheses of its own. `firstGroup?` and `outerParts` read such a text by its
parentheses alone. They come to the parameters and the result as these are written (`map_delegate_parts`)
when no name, and no text that a rule writes itself, has a parenthesis or a hyphen.

What every spelling keeps is that it is `Sealed`: parentheses are closed, and all hyphens stand between
them. The rules put sealed texts side by side, and whatever is put between parentheses is sealed.
-/

namespace TypeBridge

/-! ### Reading a text by its parentheses -/

/-- How many parentheses are open after the character, where `level` are open before it. -/
def openAfter (level : Nat) (c : Char) : Nat :=
  if c = '(' then level + 1 else if c = ')' then level - 1 else level

/-- What stands before the parenthesis that closes one that was open before, and what comes after it. -/
def closeFrom : Nat → List Char → Option (List Char × List Char)
  | _, [] => none
  | level, c :: cs =>
    if c = ')' ∧ level = 0 then some ([], cs)
    else (closeFrom (openAfter level c) cs).map fun found => (c :: found.1, found.2)

/-- For a text that begins with a parenthesis, the text up to where it is closed, and the text after. -/
def firstGroup? (text : String) : Option (String × String) :=
  match text.toList with
  | '(' :: cs =>
    (closeFrom 0 cs).map fun found => (String.ofList found.1, String.ofList found.2)
  | _ => none

/-- The pieces between the arrows that stand where no parenthesis is open. -/
def partsFrom : Nat → List Char → List (List Char)
  | 0, ' ' :: '-' :: '>' :: ' ' :: cs => [] :: partsFrom 0 cs
  | level, c :: cs => (partsFrom (openAfter level c) cs).modifyHead (c :: ·)
  | _, [] => [[]]

def outerParts (text : String) : List String :=
  (partsFrom 0 text.toList).map String.ofList

def arrowsFrom : Nat → List Char → Nat
  | 0, ' ' :: '-' :: '>' :: ' ' :: cs => arrowsFrom 0 cs + 1
  | level, c :: cs => arrowsFrom (openAfter level c) cs
  | _, [] => 0

def outerArrows (text : String) : Nat :=
  arrowsFrom 0 text.toList

section

variable {level : Nat} {marks cs cs' inside after : List Char} {c : Char}

theorem length_partsFrom (level : Nat) (cs : List Char) :
    (partsFrom level cs).length = arrowsFrom level cs + 1 := by
  fun_induction partsFrom level cs with
  | case1 cs ih => rw [List.length_cons, ih, arrowsFrom]
  | case2 level c cs hne ih => rw [List.length_modifyHead, ih, arrowsFrom.eq_2 level c cs hne]
  | case3 level => cases level <;> rfl

theorem length_outerParts (text : String) : (outerParts text).length = outerArrows text + 1 := by
  rw [outerParts, List.length_map, length_partsFrom, outerArrows]

theorem partsFrom_cons (hc : level = 0 → c = ' ' → cs.head? ≠ some '-') :
    partsFrom level (c :: cs) = (partsFrom (openAfter level c) cs).modifyHead (c :: ·) := by
  refine partsFrom.eq_2 level c cs fun rest hlevel hblank hcs => hc hlevel hblank ?_
  rw [hcs, List.head?_cons]

/-! ### Texts with closed parentheses -/

def parentheses : List Char :=
  ['(', ')']

theorem openAfter_of_notMem (hc : c ∉ parentheses) : openAfter level c = level := by
  simp only [parentheses, List.mem_cons, List.not_mem_nil, or_false, not_or] at hc
  rw [openAfter, if_neg hc.1, if_neg hc.2]

/-- Parentheses are closed, and outside of them there is none of the marks. -/
inductive Grouped : List Char → List Char → Prop
  | nil {marks : List Char} : Grouped marks []
  | char {marks cs : List Char} {c : Char} (hc : c ∉ parentheses) (hmark : c ∉ marks)
      (hcs : Grouped marks cs) : Grouped marks (c :: cs)
  | group {marks inside cs : List Char} (hinside : Grouped [] inside) (hcs : Grouped marks cs) :
      Grouped marks ('(' :: (inside ++ ')' :: cs))

namespace Grouped

theorem append (hcs : Grouped marks cs) (hcs' : Grouped marks cs') : Grouped marks (cs ++ cs') := by
  induction hcs with
  | nil => exact hcs'
  | char hc hmark _ ih => exact .char hc hmark (ih hcs')
  | group hinside _ _ ih =>
    rw [List.cons_append, List.append_assoc, List.cons_append]
    exact .group hinside (ih hcs')

theorem of_forall (hcs : ∀ c ∈ cs, c ∉ parentheses ∧ c ∉ marks) : Grouped marks cs := by
  induction cs with
  | nil => exact .nil
  | cons c cs ih =>
    have hc := hcs c List.mem_cons_self
    exact .char hc.1 hc.2 (ih fun c hc => hcs c (List.mem_cons_of_mem _ hc))

theorem balanced (hcs : Grouped marks cs) : Grouped [] cs := by
  induction hcs with
  | nil => exact .nil
  | char hc _ _ ih => exact .char hc List.not_mem_nil ih
  | group hinside _ _ ih => exact .group hinside ih

theorem intercalate {separator : List Char} {parts : List (List Char)} (hs : Grouped marks separator)
    (hparts : ∀ cs ∈ parts, Grouped marks cs) : Grouped marks (separator.intercalate parts) :=
  intercalate_of_append .nil .append hs hparts

/-- No parenthesis in the text closes one that was open before. -/
theorem closeFrom_append (hcs : Grouped marks cs) (level : Nat) (after : List Char) :
    closeFrom level (cs ++ after) =
      (closeFrom level after).map fun found => (cs ++ found.1, found.2) := by
  induction hcs generalizing level after with
  | nil => exact Option.map_id'.symm
  | char hc _ _ ih =>
    rw [List.cons_append, closeFrom, if_neg fun h => hc (by simp [h.1, parentheses]),
      openAfter_of_notMem hc, ih, Option.map_map]
    rfl
  | group _ _ ihinside ih =>
    rw [List.cons_append, List.append_assoc, List.cons_append, closeFrom, if_neg (by simp),
      show openAfter level '(' = level + 1 from rfl, ihinside, closeFrom, if_neg (by simp),
      show openAfter (level + 1) ')' = level from rfl, ih]
    simp [Function.comp_def]

/-- Where a parenthesis is open, no arrow cuts the text. -/
theorem partsFrom_append_of_open (hcs : Grouped marks cs) (level : Nat) (after : List Char) :
    partsFrom (level + 1) (cs ++ after) = (partsFrom (level + 1) after).modifyHead (cs ++ ·) := by
  induction hcs generalizing level after with
  | nil => exact (congrFun List.modifyHead_id _).symm
  | char hc _ _ ih =>
    rw [List.cons_append, partsFrom_cons (by simp), openAfter_of_notMem hc, ih,
      List.modifyHead_modifyHead]
    rfl
  | group _ _ ihinside ih =>
    rw [List.cons_append, List.append_assoc, List.cons_append, partsFrom_cons (by simp),
      show openAfter (level + 1) '(' = level + 1 + 1 from rfl, ihinside, partsFrom_cons (by simp),
      show openAfter (level + 1 + 1) ')' = level + 1 from rfl, ih]
    simp [Function.comp_def]

theorem head?_append_ne (hcs : Grouped marks cs) (hmark : '-' ∈ marks)
    (hafter : after.head? ≠ some '-') : (cs ++ after).head? ≠ some '-' := by
  cases hcs with
  | nil => exact hafter
  | char _ hc _ =>
    rintro h
    exact hc (Option.some.inj h ▸ hmark)
  | group => simp

theorem partsFrom_append (hcs : Grouped marks cs) (hmark : '-' ∈ marks)
    (hafter : after.head? ≠ some '-') :
    partsFrom 0 (cs ++ after) = (partsFrom 0 after).modifyHead (cs ++ ·) := by
  induction hcs with
  | nil => exact (congrFun List.modifyHead_id _).symm
  | char hc _ hrest ih =>
    rw [List.cons_append, partsFrom_cons fun _ _ => hrest.head?_append_ne hmark hafter,
      openAfter_of_notMem hc, ih hmark, List.modifyHead_modifyHead]
    rfl
  | group hinside _ _ ih =>
    rw [List.cons_append, List.append_assoc, List.cons_append, partsFrom_cons (by simp),
      show openAfter 0 '(' = 0 + 1 from rfl, hinside.partsFrom_append_of_open, partsFrom_cons (by simp),
      show openAfter (0 + 1) ')' = 0 from rfl, ih hmark]
    simp [Function.comp_def]

end Grouped

theorem partsFrom_intercalate {parts : List (List Char)} (hne : parts ≠ [])
    (hparts : ∀ cs ∈ parts, Grouped ['-'] cs) :
    partsFrom 0 (" -> ".toList.intercalate parts) = parts := by
  induction parts with
  | nil => exact absurd rfl hne
  | cons cs parts ih =>
    have hcs := hparts cs List.mem_cons_self
    have hmark : '-' ∈ ['-'] := List.mem_cons_self
    cases parts with
    | nil =>
      rw [List.intercalate_singleton, ← List.append_nil cs, hcs.partsFrom_append hmark (by simp)]
      rfl
    | cons cs' parts =>
      have hrest := ih (List.cons_ne_nil _ _) fun cs hmem => hparts cs (List.mem_cons_of_mem _ hmem)
      rw [List.intercalate_cons_cons, List.append_assoc, hcs.partsFrom_append hmark (by simp)]
      show ([] :: partsFrom 0 (" -> ".toList.intercalate (cs' :: parts))).modifyHead (cs ++ ·) = _
      rw [hrest, List.modifyHead_cons, List.append_nil]

end

/-! ### Sealed texts -/

/-- Parentheses are closed in the text, and all hyphens stand between them. -/
def Sealed (s : String) : Prop :=
  Grouped ['-'] s.toList

/-- The characters by which function types are read. -/
def functionMarks : List Char :=
  '-' :: parentheses

theorem isMark_of_mem_functionMarks : ∀ c ∈ functionMarks, IsMark c := by
  decide

theorem Avoids.sealed {s : String} (hs : Avoids functionMarks s) : Sealed s := by
  refine .of_forall fun c hc => ?_
  have hmark := hs c hc
  rw [functionMarks, List.mem_cons, not_or] at hmark
  exact ⟨hmark.2, List.mem_singleton.not.2 hmark.1⟩

namespace Sealed
variable {s t head result inner : String} {params arguments parts : List String}

theorem append (hs : Sealed s) (ht : Sealed t) : Sealed (s ++ t) := by
  rw [Sealed, String.toList_append]
  exact Grouped.append hs ht

theorem intercalate {separator : String} (hs : Sealed separator) (hparts : ∀ t ∈ parts, Sealed t) :
    Sealed (separator.intercalate parts) := by
  rw [Sealed, String.toList_intercalate]
  refine Grouped.intercalate hs fun cs hcs => ?_
  obtain ⟨t, ht, rfl⟩ := List.mem_map.1 hcs
  exact hparts t ht

theorem applied (hhead : Sealed head) (harguments : ∀ t ∈ arguments, Sealed t) :
    Sealed (Target.applied head arguments) := by
  have hopen : Avoids functionMarks "<" := by decide
  have hcomma : Avoids functionMarks ", " := by decide
  have hclose : Avoids functionMarks ">" := by decide
  exact ((hhead.append hopen.sealed).append (hcomma.sealed.intercalate harguments)).append
    hclose.sealed

theorem optional (hinner : Sealed inner) : Sealed (Target.optional inner) := by
  have hnullable : Avoids functionMarks Target.nullable := by decide
  have hlow : Avoids functionMarks "_" := by decide
  unfold Target.optional Target.optionalPrimitive?
  split_ifs
  · exact (hnullable.sealed.append hlow.sealed).append hinner
  · have happlied := hnullable.sealed.applied (List.forall_mem_singleton.2 hinner)
    rwa [Target.applied, String.intercalate_singleton] at happlied

end Sealed

/-- What a function type is written with: its parameters, or `Void` for none, and its result. -/
def functionParts (params : List String) (result : String) : List String :=
  (if params.isEmpty then [Target.void] else params) ++ [result]

section

variable {params : List String} {result : String}

theorem length_functionParts : (functionParts params result).length = max 1 params.length + 1 := by
  cases params with
  | nil => rfl
  | cons p params => simp [functionParts]

theorem sealed_of_mem_functionParts (hparams : ∀ t ∈ params, Sealed t) (hresult : Sealed result) :
    ∀ t ∈ functionParts params result, Sealed t := by
  have hvoid : Avoids functionMarks Target.void := by decide
  intro t ht
  rcases List.mem_append.1 ht with ht | ht
  · split_ifs at ht
    · exact List.mem_singleton.1 ht ▸ hvoid.sealed
    · exact hparams t ht
  · exact List.mem_singleton.1 ht ▸ hresult

theorem toList_function : (Target.function params result).toList =
    '(' :: ((" -> ".intercalate (functionParts params result)).toList ++ [')']) := by
  simp [Target.function, functionParts]

theorem Sealed.grouped_arrows (hparams : ∀ t ∈ params, Sealed t) (hresult : Sealed result) :
    Grouped [] (" -> ".intercalate (functionParts params result)).toList := by
  rw [String.toList_intercalate]
  refine Grouped.intercalate (.of_forall (by decide)) fun cs hcs => ?_
  obtain ⟨t, ht, rfl⟩ := List.mem_map.1 hcs
  exact (sealed_of_mem_functionParts hparams hresult t ht).balanced

theorem Sealed.function (hparams : ∀ t ∈ params, Sealed t) (hresult : Sealed result) :
    Sealed (Target.function params result) := by
  rw [Sealed, toList_function]
  exact .group (grouped_arrows hparams hresult) .nil

theorem firstGroup?_function (hparams : ∀ t ∈ params, Sealed t) (hresult : Sealed result) :
    firstGroup? (Target.function params result) =
      some (" -> ".intercalate (functionParts params result), "") := by
  have hclosed := (Sealed.grouped_arrows hparams hresult).closeFrom_append 0 [')']
  simp only [firstGroup?, toList_function, hclosed]
  show some (String.ofList (_ ++ []), "") = _
  rw [List.append_nil, String.ofList_toList]

theorem outerParts_arrows (hparams : ∀ t ∈ params, Sealed t) (hresult : Sealed result) :
    outerParts (" -> ".intercalate (functionParts params result)) = functionParts params result := by
  have hne : functionParts params result ≠ [] := by simp [functionParts]
  rw [outerParts, String.toList_intercalate, partsFrom_intercalate (by simpa using hne), List.map_map]
  · simp
  · intro cs hcs
    obtain ⟨t, ht, rfl⟩ := List.mem_map.1 hcs
    exact sealed_of_mem_functionParts hparams hresult t ht

example : outerParts "(Int -> Int) -> Array<(Void -> Int)> -> Int" =
    ["(Int -> Int)", "Array<(Void -> Int)>", "Int"] := by
  decide +kernel

end

/-! ### Rules -/

def Spelling.Sealed (s : Spelling) : Prop :=
  ∀ text, s = .written text → TypeBridge.Sealed text

namespace Spelling
variable {s : Spelling} {fallback : String}

theorem sealed_written {text : String} (ht : TypeBridge.Sealed text) : (written text).Sealed :=
  forall_written ht

theorem Sealed.textOr (hs : s.Sealed) (hf : TypeBridge.Sealed fallback) :
    TypeBridge.Sealed (s.textOr fallback) :=
  textOr_of_forall hs hf

end Spelling

/-- What a replacement may refer to is sealed, with names that have none of the characters. -/
structure Context.Sealed (cx : Context) : Prop where
  name : Avoids functionMarks cx.name
  namespaceName : Avoids functionMarks cx.namespaceName
  arguments : ∀ t ∈ cx.arguments, TypeBridge.Sealed t
  fallback : TypeBridge.Sealed cx.fallback

theorem Context.Sealed.apply {cx : Context} {rule : Rule} (hcx : cx.Sealed)
    (hrule : rule.Avoids functionMarks) : TypeBridge.Sealed (rule.apply cx) :=
  hrule.apply isMark_of_mem_functionMarks Avoids.sealed TypeBridge.Sealed.append hcx.name
    hcx.namespaceName (by decide) hcx.arguments hcx.fallback

/-- Every rule writes a sealed text with sealed texts, when it writes none of the characters itself. -/
theorem Outline.Avoids.sealed {o : Outline String} {fallback : String}
    (ho : o.Avoids functionMarks) (hholes : ∀ t ∈ o.holes, Sealed t) (hf : Sealed fallback) :
    (o.spelling fallback).Sealed := by
  cases o with
  | fixed s => exact fun text ht => TypeBridge.Avoids.sealed (ho text ht)
  | array element =>
    have harray : TypeBridge.Avoids functionMarks Target.array := by decide
    exact Spelling.sealed_written (harray.sealed.applied hholes)
  | function params result =>
    exact Spelling.sealed_written <| .function (fun t ht => hholes t (List.mem_append_left _ ht))
      (hholes result (List.mem_append_right _ (List.mem_singleton_self _)))
  | nullable inner =>
    exact Spelling.sealed_written (.optional (hholes inner (List.mem_singleton_self _)))
  | applied head arguments =>
    exact Spelling.sealed_written <| .applied (hholes head List.mem_cons_self)
      fun t ht => hholes t (List.mem_cons_of_mem _ ht)
  | replaced rule name namespaceName arguments =>
    obtain ⟨hrule, hname, hns⟩ := ho
    exact Spelling.sealed_written (Context.Sealed.apply ⟨hname, hns, hholes, hf⟩ hrule)

namespace Mapper
variable {m : Mapper} {h : Handle}

theorem Unmarked.sealed (hm : m.Unmarked functionMarks) (h : Handle) : (m.spelling h).Sealed :=
  spelling_induction hm.wellFormed (fun _ hs => hs.textOr hm.fallback.sealed)
    (fun h hholes => ((hm.outline h).map _).sealed hholes hm.fallback.sealed) h

end Mapper

/-- Let no name, neither of a type nor of a type parameter or a namespace, and no text of the overrides
have a parenthesis or a hyphen, nor the fallback. Then a delegate that is not refused is written as one
group in parentheses, and inside of it the arrows outside of further parentheses stand between what is
written for the parameters, in their order, and for the result. For no parameters there is `Void`; so
there are as many arrows as parameters, and at least one. -/
theorem Registry.map_delegate_parts {r : Registry} {overrides : Overrides} {maxDepth : Nat}
    {fallback : String} {h : Handle} {declared : Declared Handle} {params : List Handle}
    {result : Handle} (hr : r.Reachable) (hn : r.AllForms (Form.NamesAvoid functionMarks))
    (ho : overrides.Avoid functionMarks) (hf : Avoids functionMarks fallback)
    (hd : r.form? h = some (.delegate declared params result))
    (ha : (r.mapper overrides maxDepth fallback).Admits h) :
    let m := r.mapper overrides maxDepth fallback
    ∃ inside texts last,
      Memo.fresh (m.map h).run = .ok (.written ("(" ++ inside ++ ")")) ∧
      firstGroup? ("(" ++ inside ++ ")") = some (inside, "") ∧
      List.Forall₂ m.Writes params texts ∧ m.Writes result last ∧
      outerParts inside = (if params = [] then ["Void"] else texts) ++ [last] ∧
      outerArrows inside = max 1 params.length := by
  intro m
  have hwf : r.WellFormed := hr.wellFormed
  have hm : m.Unmarked functionMarks :=
    ⟨hwf, isMark_of_mem_functionMarks, hn, ho, hf, fun _ _ _ => rfl⟩
  let text (c : Handle) : String := (m.spelling c).textOr m.fallback
  have htext : ∀ c, Sealed (text c) := fun c => (hm.sealed c).textOr hf.sealed
  have hparams : ∀ t ∈ params.map text, Sealed t := by
    intro t ht
    obtain ⟨c, -, rfl⟩ := List.mem_map.1 ht
    exact htext c
  have hspelled : m.spelling h = .written (Target.function (params.map text) (text result)) := by
    rw [Mapper.spelling_eq hwf, Mapper.spellingFrom, Mapper.outline_of_delegate hd]
    rfl
  have hparts := outerParts_arrows hparams (htext result)
  refine ⟨" -> ".intercalate (functionParts (params.map text) (text result)), params.map text,
    text result, ?_, firstGroup?_function hparams (htext result), ?_, ?_, ?_, ?_⟩
  · rw [Mapper.fresh_map hwf ha, hspelled]
    rfl
  · exact Mapper.forall₂_writes hwf fun c hc => (Mapper.DependsOn.parameter hd hc).admits hwf ha
  · exact Mapper.writes_of_admits hwf ((Mapper.DependsOn.result hd).admits hwf ha)
  · rw [hparts, functionParts]
    simp [Target.void]
  · have hlength := length_outerParts
      (" -> ".intercalate (functionParts (params.map text) (text result)))
    rw [hparts, length_functionParts, List.length_map] at hlength
    exact (Nat.succ.inj hlength).symm

/-- A delegate with a delegate for result, an array of such for a parameter, and a pair of one for another;
and a template that turns pairs around. -/
theorem Registry.map_delegate_parts_nested :
    let r := ofConstructions [.builtin .int32, .builtin .string, .delegate "Lib" "Thunk" 0 [] 0,
      .array 2, .generic "Lib" "Pair" 2 false, .instantiate 4 [2, 1],
      .delegate "Lib" "Visit" 0 [3, 5] 2]
    let swapped : Template := ⟨[.literal "Duo<", .argument 1, .literal ", ", .argument 0, .literal ">"]⟩
    let overrides : Overrides :=
      ⟨Overrides.empty.byName.insert "Lib.Pair<,>" ⟨"Lib.Pair<,>", .template swapped, true⟩⟩
    let m := r.mapper overrides 3 "Dynamic"
    m.Admits 6 ∧ ∃ inside,
      Memo.fresh (m.map 6).run = .ok (.written ("(" ++ inside ++ ")")) ∧
      outerParts inside = ["Array<(Void -> Int)>", "Duo<String, (Void -> Int)>", "(Void -> Int)"] ∧
      outerArrows inside = 2 := by
  intro r swapped overrides m
  have hn : r.AllForms (Form.NamesAvoid functionMarks) := by decide +kernel
  have ho : overrides.Avoid functionMarks := by
    intro name o hlookup
    rw [Overrides.lookup, Std.ExtTreeMap.getElem?_insert] at hlookup
    split_ifs at hlookup
    · obtain rfl := Option.some.inj hlookup
      have hliterals : ∀ segment ∈ swapped.segments, ∀ text, segment = .literal text →
          Avoids functionMarks text := by
        simp only [swapped, List.forall_mem_cons, List.not_mem_nil, false_implies, implies_true,
          and_true, Segment.literal.injEq, reduceCtorEq, forall_eq', true_and]
        decide
      exact fun text ht => hliterals _ ht text rfl
    · cases hlookup
  obtain ⟨declared, hd⟩ : ∃ declared, r.form? 6 = some (.delegate declared [3, 5] 2) :=
    ⟨{ namespaceName := "Lib", name := "Visit", arity := 0 }, by decide +kernel⟩
  have ha : m.Admits 6 := ⟨3, by decide +kernel, by decide⟩
  obtain ⟨inside, texts, last, hs, -, htexts, hlast, hparts, harrows⟩ :=
    map_delegate_parts ⟨_, rfl⟩ hn ho (by decide) hd ha
  refine ⟨ha, inside, hs, ?_, harrows⟩
  cases htexts with
  | cons hfirst htexts => cases htexts with
    | cons hsecond htexts =>
      cases htexts
      have hfirst' : m.Writes 3 "Array<(Void -> Int)>" := .inl (by decide +kernel)
      have hsecond' : m.Writes 5 "Duo<String, (Void -> Int)>" := .inl (by decide +kernel)
      have hlast' : m.Writes 2 "(Void -> Int)" := .inl (by decide +kernel)
      rw [hparts, hfirst.unique hfirst', hsecond.unique hsecond', hlast.unique hlast']
      rfl

end TypeBridge
