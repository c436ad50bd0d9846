import TypeBridge.Proofs.DepthLimit

/-!
# Three forms of the type of a node

A front end is asked for the type of a node and, where that is an error, for the type of its parent, and for
nothing else: front ends that answer these questions alike (`FrontEnd.Agrees`) cannot be told apart. The
text that must be there and the text with a colon go on from the text that may be missing, without another
look at the memo. So their runs are the run of the first with another answer (`run_nodeText`,
`run_nodeSuffix`), and what each answers is read off from what the first does.
-/

namespace TypeBridge

variable {ν ν' : Type} {fe : FrontEnd ν} {fe' : FrontEnd ν'} {node : ν} {node' : ν'} {h : Handle}

namespace FrontEnd

/-- The type that is known for a node: its own, or that of its parent where its own is an error. -/
inductive Finds (fe : FrontEnd ν) (node : ν) (h : Handle) : Prop
  | own (hnode : fe.typeAt node = .known h)
  | parent {parent : ν} (hnode : fe.typeAt node = .error) (hparent : fe.parent? node = some parent)
      (htype : fe.typeAt parent = .known h)

/-- Two front ends say the same of two nodes and, where that is an error, of their parents. -/
structure Agrees (fe : FrontEnd ν) (node : ν) (fe' : FrontEnd ν') (node' : ν') : Prop where
  own : fe'.typeAt node' = fe.typeAt node
  parent : fe.typeAt node = .error →
    (fe'.parent? node').map fe'.typeAt = (fe.parent? node).map fe.typeAt

theorem handle?_eq_some_iff {type : NodeType} : type.handle? = some h ↔ type = .known h := by
  cases type <;> simp [NodeType.handle?]

theorem typeOf?_eq_some_iff : fe.typeOf? node = some h ↔ fe.Finds node h := by
  unfold typeOf?
  constructor
  · intro hfound
    split at hfound
    next hnode =>
      obtain ⟨parent, hparent, htype⟩ := Option.bind_eq_some_iff.1 hfound
      exact .parent hnode hparent (handle?_eq_some_iff.1 htype)
    next => exact .own (handle?_eq_some_iff.1 hfound)
  · rintro (hnode | ⟨hnode, hparent, htype⟩)
    · rw [hnode]
      rfl
    · rw [hnode, hparent]
      exact handle?_eq_some_iff.2 htype

theorem Agrees.typeOf?_eq (ha : fe.Agrees node fe' node') : fe'.typeOf? node' = fe.typeOf? node := by
  unfold typeOf?
  rw [ha.own]
  split
  next hnode =>
    have hparent := congrArg (Option.bind · NodeType.handle?) (ha.parent hnode)
    rwa [Option.bind_map, Option.bind_map] at hparent
  next => rfl

end FrontEnd

/-- The same error, of the node with this name if it is about a node. -/
def MappingError.about (name : String) : MappingError → MappingError
  | unresolved _ => unresolved name
  | e => e

theorem MappingError.about_eq {e : MappingError} (he : ∀ name, e ≠ unresolved name) (name : String) :
    e.about name = e := by
  cases e with
  | unresolved name' => exact absurd rfl (he name')
  | depthExceeded limit h => rfl
  | unknown e => rfl

namespace Mapper

variable {m : Mapper} {memo : Memo} {e : MappingError}

theorem not_unresolved_of_map (he : ((m.map h).run.run memo).1 = .error e) (name : String) :
    e ≠ .unresolved name := by
  cases hd : m.registry.depth? h with
  | none =>
    simp only [map, hd] at he
    obtain rfl := Except.error.inj he
    exact MappingError.noConfusion
  | some depth =>
    by_cases hlt : m.maxDepth < depth
    · rw [map_of_lt hd hlt] at he
      obtain rfl := Except.error.inj he
      exact MappingError.noConfusion
    · rw [map_of_admits ⟨depth, hd, Nat.le_of_not_lt hlt⟩] at he
      cases he

theorem nodeText?_of_finds (hf : fe.Finds node h) : m.nodeText? fe node = m.mapText h := by
  rw [nodeText?, FrontEnd.typeOf?_eq_some_iff.2 hf]

theorem nodeText?_of_not_finds (hf : ∀ h, ¬ fe.Finds node h) : m.nodeText? fe node = pure none := by
  have hnone : fe.typeOf? node = none :=
    Option.eq_none_iff_forall_ne_some.2 fun h hfound => hf h (FrontEnd.typeOf?_eq_some_iff.1 hfound)
  rw [nodeText?, hnone]

theorem answer_mapText (m : Mapper) (h : Handle) (memo : Memo) :
    ((m.mapText h).run.run memo).1 = (·.text?) <$> ((m.map h).run.run memo).1 := by
  rw [mapText, ExceptT.run_map]
  rfl

theorem not_unresolved_of_nodeText? (he : ((m.nodeText? fe node).run.run memo).1 = .error e)
    (name : String) : e ≠ .unresolved name := by
  by_cases hf : ∃ h, fe.Finds node h
  · obtain ⟨h, hf⟩ := hf
    rw [nodeText?_of_finds hf, answer_mapText] at he
    cases hmap : ((m.map h).run.run memo).1 with
    | error e' =>
      rw [hmap] at he
      obtain rfl := Except.error.inj he
      exact not_unresolved_of_map hmap name
    | ok s =>
      rw [hmap] at he
      cases he
  · rw [nodeText?_of_not_finds (not_exists.1 hf)] at he
    cases he

/-- The text that must be there, for the node with this name. -/
def required (name : String) (text? : Option String) : Except MappingError String :=
  text?.elim (.error (.unresolved name)) .ok

@[simp] theorem bind_required_error {name : String} : (.error e >>= required name) = .error e :=
  rfl

@[simp] theorem bind_required_none {name : String} :
    (.ok none >>= required name) = .error (.unresolved name) :=
  rfl

@[simp] theorem bind_required_some {name s : String} : (.ok (some s) >>= required name) = .ok s :=
  rfl

def suffixed (text? : Option String) : Except MappingError String :=
  .ok (text?.elim "" (": " ++ ·))

@[simp] theorem bind_suffixed_error : (.error e >>= suffixed) = .error e :=
  rfl

@[simp] theorem bind_suffixed_none : (.ok none >>= suffixed) = .ok "" :=
  rfl

@[simp] theorem bind_suffixed_some {s : String} : (.ok (some s) >>= suffixed) = .ok (": " ++ s) :=
  rfl

theorem run_nodeText (m : Mapper) (fe : FrontEnd ν) (node : ν) (memo : Memo) :
    (m.nodeText fe node).run.run memo =
      (((m.nodeText? fe node).run.run memo).1 >>= required (fe.describe node),
        ((m.nodeText? fe node).run.run memo).2) := by
  have hrun : (m.nodeText fe node).run =
      (· >>= required (fe.describe node)) <$> (m.nodeText? fe node).run :=
    run_bind_of_pure fun text? => by cases text? <;> rfl
  rw [hrun]
  rfl

theorem run_nodeSuffix (m : Mapper) (fe : FrontEnd ν) (node : ν) (memo : Memo) :
    (m.nodeSuffix fe node).run.run memo =
      (((m.nodeText? fe node).run.run memo).1 >>= suffixed,
        ((m.nodeText? fe node).run.run memo).2) := by
  have hrun : (m.nodeSuffix fe node).run = (· >>= suffixed) <$> (m.nodeText? fe node).run :=
    run_bind_of_pure fun text? => by cases text? <;> rfl
  rw [hrun]
  rfl

/-- What the three forms come to for one node, by its name in a message, belongs together: the text that may
be missing, the text that must be there and the text after a colon, each with the memo that is left. -/
structure FormsAgree (name : String) (text? : Except MappingError (Option String) × Memo)
    (text suffix : Except MappingError String × Memo) : Prop where
  memo : text.2 = text?.2 ∧ suffix.2 = text?.2
  found : ∀ s, (text.1 = .ok s ↔ text?.1 = .ok (some s)) ∧
    (suffix.1 = .ok (": " ++ s) ↔ text?.1 = .ok (some s))
  unresolved : ∀ name', text.1 = .error (.unresolved name') ↔ text?.1 = .ok none ∧ name' = name
  empty : suffix.1 = .ok "" ↔ text?.1 = .ok none
  depthExceeded : ∀ limit h,
    (text.1 = .error (.depthExceeded limit h) ↔ text?.1 = .error (.depthExceeded limit h)) ∧
    (suffix.1 = .error (.depthExceeded limit h) ↔ text?.1 = .error (.depthExceeded limit h))

theorem formsAgree (m : Mapper) (fe : FrontEnd ν) (node : ν) (memo : Memo) :
    FormsAgree (fe.describe node) ((m.nodeText? fe node).run.run memo)
      ((m.nodeText fe node).run.run memo) ((m.nodeSuffix fe node).run.run memo) := by
  have herror : ∀ e name, ((m.nodeText? fe node).run.run memo).1 = .error e → e ≠ .unresolved name :=
    fun _ name he => not_unresolved_of_nodeText? he name
  rw [run_nodeText, run_nodeSuffix]
  generalize (m.nodeText? fe node).run.run memo = text? at herror
  obtain ⟨answer, memo'⟩ := text?
  cases answer with
  | error e => constructor <;> simp [fun name => herror e name rfl]
  | ok text? =>
    cases text? with
    | none => constructor <;> simp [@eq_comm _ (fe.describe node)]
    | some s => constructor <;> simp

theorem nodeText?_of_agrees (ha : fe.Agrees node fe' node') :
    m.nodeText? fe' node' = m.nodeText? fe node := by
  rw [nodeText?, nodeText?, ha.typeOf?_eq]

/-- The name of the node is all that its front end can change. -/
theorem run_nodeText_of_agrees (ha : fe.Agrees node fe' node') (memo : Memo) :
    (m.nodeText fe' node').run.run memo =
      Prod.map (Except.mapError (·.about (fe'.describe node'))) id
        ((m.nodeText fe node).run.run memo) := by
  rw [run_nodeText, run_nodeText, nodeText?_of_agrees ha]
  cases hfound : ((m.nodeText? fe node).run.run memo).1 with
  | error e =>
    have habout := MappingError.about_eq (not_unresolved_of_nodeText? hfound) (fe'.describe node')
    exact congrArg (fun e => ((.error e : Except MappingError String), _)) habout.symm
  | ok text? => cases text? <;> rfl

theorem run_nodeSuffix_of_agrees (ha : fe.Agrees node fe' node') (memo : Memo) :
    (m.nodeSuffix fe' node').run.run memo = (m.nodeSuffix fe node).run.run memo := by
  rw [run_nodeSuffix, run_nodeSuffix, nodeText?_of_agrees ha]

/-- For every mapper, node and memo. Front ends that say the same of the node and, where that is an error, of
its parent give the same answers and leave the same memo in all three forms, up to the name of the node in
an error. The three forms belong together. When a type is found and the call for it is refused, all three
are refused for the same reason; when none is found, all three leave the memo as it is. -/
theorem node_forms_agree (m : Mapper) (fe : FrontEnd ν) (node : ν) (memo : Memo) :
    let text? := (m.nodeText? fe node).run.run memo
    let text := (m.nodeText fe node).run.run memo
    let suffix := (m.nodeSuffix fe node).run.run memo
    (∀ (ν' : Type) (fe' : FrontEnd ν') (node' : ν'), fe.Agrees node fe' node' →
      (m.nodeText? fe' node').run.run memo = text? ∧
      (m.nodeText fe' node').run.run memo =
        Prod.map (Except.mapError (·.about (fe'.describe node'))) id text ∧
      (m.nodeSuffix fe' node').run.run memo = suffix) ∧
    FormsAgree (fe.describe node) text? text suffix ∧
    (∀ h e, fe.Finds node h → ((m.map h).run.run memo).1 = .error e →
      text?.1 = .error e ∧ text.1 = .error e ∧ suffix.1 = .error e) ∧
    ((∀ h, ¬ fe.Finds node h) → text? = (.ok none, memo) ∧ text.2 = memo ∧ suffix.2 = memo) := by
  intro text? text suffix
  refine ⟨fun ν' fe' node' ha => ?_, formsAgree m fe node memo, fun h e hf he => ?_, fun hf => ?_⟩
  · exact ⟨by rw [nodeText?_of_agrees ha], run_nodeText_of_agrees ha memo,
      run_nodeSuffix_of_agrees ha memo⟩
  · have hrefused : text?.1 = .error e := by
      simp only [text?, nodeText?_of_finds hf, answer_mapText, he]
      rfl
    simp only [text, suffix, run_nodeText, run_nodeSuffix]
    exact ⟨hrefused, by rw [hrefused, bind_required_error], by rw [hrefused, bind_suffixed_error]⟩
  · have hnone : text? = (.ok none, memo) := by
      simp only [text?, nodeText?_of_not_finds hf]
      rfl
    simp only [text, suffix, run_nodeText, run_nodeSuffix]
    exact ⟨hnone, congrArg Prod.snd hnone, congrArg Prod.snd hnone⟩

/-- A row of nodes, each with the next for its parent: an error before an integer, two errors before another
integer, and an array that nests too deeply. A front end that knows the first two alone is not told apart by
the first. -/
theorem node_forms_agree_row :
    let m : Mapper := { registry := .ofConstructions [.builtin .int32, .array 0], maxDepth := 0 }
    let types := [NodeType.error, .known 0, .error, .error, .known 0, .known 1]
    let names := ["a", "b", "c", "d", "e", "f"]
    let fe : FrontEnd Nat :=
      { typeAt := fun n => types[n]?.getD .unknown
        parent? := fun n => some (n + 1)
        describe := fun n => names[n]?.getD "" }
    let fe' : FrontEnd Nat := { fe with typeAt := fun n => (types.take 2)[n]?.getD .unknown }
    let memo := ((m.nodeText? fe 0).run.run .empty).2
    (m.nodeText fe 0).run.run .empty = (.ok "Int", memo) ∧
      (m.nodeSuffix fe' 0).run.run .empty = (.ok ": Int", memo) ∧
      (m.nodeText fe 2).run.run memo = (.error (.unresolved "c"), memo) ∧
      (m.nodeSuffix fe 2).run.run memo = (.ok "", memo) ∧
      ((m.nodeText fe 5).run.run memo).1 = .error (.depthExceeded 0 1) ∧
      ((m.nodeSuffix fe 5).run.run memo).1 = .error (.depthExceeded 0 1) := by
  intro m types names fe fe' memo
  obtain ⟨hsame, hforms, -⟩ := node_forms_agree m fe 0 .empty
  obtain ⟨-, hforms₂, -, hnone⟩ := node_forms_agree m fe 2 memo
  obtain ⟨-, -, hrefused, -⟩ := node_forms_agree m fe 5 memo
  have ha : fe.Agrees 0 fe' 0 := ⟨rfl, fun _ => rfl⟩
  have hint : ((m.nodeText? fe 0).run.run .empty).1 = .ok (some "Int") := by decide +kernel
  have hnowhere : ∀ h, ¬ fe.Finds 2 h := by
    rintro h (hnode | ⟨-, hparent, htype⟩)
    · cases hnode
    · obtain rfl := Option.some.inj hparent
      cases htype
  have hdeep : ((m.map 1).run.run memo).1 = .error (.depthExceeded 0 1) := by
    rw [map_of_lt (show m.registry.depth? 1 = some 1 by decide +kernel) (Nat.zero_lt_one)]
    rfl
  obtain ⟨hfound₂, htext₂, hsuffix₂⟩ := hnone hnowhere
  obtain ⟨-, htext, hsuffix⟩ := hrefused 1 _ (.own rfl) hdeep
  refine ⟨Prod.ext ((hforms.found "Int").1.2 hint) hforms.memo.1, ?_, Prod.ext ?_ htext₂,
    Prod.ext ?_ hsuffix₂, htext, hsuffix⟩
  · rw [(hsame Nat fe' 0 ha).2.2]
    exact Prod.ext ((hforms.found "Int").2.2 hint) hforms.memo.2
  · exact (hforms₂.unresolved "c").2 ⟨congrArg Prod.fst hfound₂, rfl⟩
  · exact hforms₂.empty.2 (congrArg Prod.fst hfound₂)

end Mapper
end TypeBridge
