import TypeBridge.Source.Order

/-! # The type registry

A registry holds each descriptor once and gives it a handle, its position. Beside the descriptors it
keeps their depths and an index, by which a descriptor that is there already is found; nothing but
`push` writes to the three. A descriptor is taken only when all its references are in the registry, so
a reference always points back; what is read from a type by following references is therefore a fold
over earlier types. -/

namespace TypeBridge

structure UnknownHandle where
  size : Nat
  handle : Handle
deriving DecidableEq

def UnknownHandle.message (e : UnknownHandle) : String :=
  "index out of bounds: the len is " ++ toString e.size ++ " but the index is " ++
    toString e.handle

inductive BuildError
  | notGenericDefinition (type : String)
  | arityMismatch (type : String) (expected found : Nat)
  | notAContainer (type : String)
  | unknown (e : UnknownHandle)
deriving DecidableEq

def BuildError.message : BuildError → String
  | notGenericDefinition type => "`" ++ type ++ "` is not a generic type definition"
  | arityMismatch type expected found =>
    "`" ++ type ++ "` expects " ++ toString expected ++ " type argument(s), found " ++
      toString found
  | notAContainer type => "`" ++ type ++ "` cannot contain nested types"
  | unknown e => e.message

structure Registry where
  types : Array (Descriptor Handle) := #[]
  /-- The length of the longest chain of references that starts at each type. -/
  depths : Array Nat := #[]
  index : Std.ExtTreeMap (Descriptor Handle) Handle := ∅

/-- A step that may add to a registry, and gives a result or says why there is none. -/
abbrev Build (α : Type) := ExceptT BuildError (StateM Registry) α

namespace Registry

def empty : Registry := {}

def size (r : Registry) : Nat := r.types.size

def get? (r : Registry) (h : Handle) : Option (Descriptor Handle) := r.types[h]?

def depth? (r : Registry) (h : Handle) : Option Nat := r.depths[h]?

/-- The descriptor of a handle that is expected to be known. -/
def find (r : Registry) (h : Handle) : Except UnknownHandle (Descriptor Handle) :=
  match r.get? h with
  | some d => .ok d
  | none => .error ⟨r.size, h⟩

def handle? (r : Registry) (d : Descriptor Handle) : Option Handle := r.index[d]?

/-- One more than the depth of the deepest reference, if there is one. -/
def depthOf (r : Registry) (d : Descriptor Handle) : Nat :=
  d.references.foldl (fun depth c => max depth ((r.depth? c).getD 0 + 1)) 0

def push (r : Registry) (d : Descriptor Handle) : Registry where
  types := r.types.push d
  depths := r.depths.push (r.depthOf d)
  index := r.index.insert d r.size

/-- The first reference of a descriptor that has no depth in the registry. -/
def firstUnknown? (r : Registry) (d : Descriptor Handle) : Option Handle :=
  d.references.find? (r.depths.size ≤ ·)

/-- The handle of a descriptor, which is added if it is new. -/
def intern (d : Descriptor Handle) : Build Handle := do
  let r : Registry ← get
  match r.handle? d with
  | some h => return h
  | none =>
    match r.firstUnknown? d with
    | some c => throw (.unknown ⟨r.depths.size, c⟩)
    | none =>
      let h := r.size
      set (r.push d)
      return h

theorem size_push (r : Registry) (d : Descriptor Handle) : (r.push d).size = r.size + 1 :=
  Array.size_push ..

theorem get?_push (r : Registry) (d : Descriptor Handle) (h : Handle) :
    (r.push d).get? h = if h = r.size then some d else r.get? h :=
  Array.getElem?_push

theorem depth?_push (r : Registry) (d : Descriptor Handle) (h : Handle) :
    (r.push d).depth? h = if h = r.depths.size then some (r.depthOf d) else r.depth? h :=
  Array.getElem?_push

theorem handle?_push (r : Registry) (d e : Descriptor Handle) :
    (r.push d).handle? e = if d = e then some r.size else r.handle? e := by
  simp only [handle?, push, Std.ExtTreeMap.getElem?_insert, Std.LawfulEqOrd.compare_eq_iff_eq]

theorem get?_eq_none_iff {r : Registry} {h : Handle} : r.get? h = none ↔ r.size ≤ h :=
  Array.getElem?_eq_none_iff

theorem run_intern (d : Descriptor Handle) (r : Registry) :
    (intern d).run r =
      match r.handle? d with
      | some h => (.ok h, r)
      | none =>
        match r.firstUnknown? d with
        | some c => (.error (.unknown ⟨r.depths.size, c⟩), r)
        | none => (.ok r.size, r.push d) := by
  have hr : (intern d).run r = (match r.handle? d with
      | some h => (pure h : Build Handle)
      | none =>
        match r.firstUnknown? d with
        | some c => throw (BuildError.unknown ⟨r.depths.size, c⟩)
        | none => do set (r.push d); return r.size).run r := rfl
  rw [hr]
  cases r.handle? d with
  | some h => rfl
  | none => cases r.firstUnknown? d <;> rfl

variable {α : Type}

/-- What `step` reads from a type and from what was read from earlier types; `absent` is read where
there is no earlier type. Types can nest deeply, so what one step takes of the stack is kept small. -/
@[specialize]
def fold (r : Registry) (absent : α) (step : Handle → Descriptor Handle → (Handle → α) → α)
    (h : Handle) : α :=
  match r.get? h with
  | none => absent
  | some d => step h d fun c => if _hc : c < h then fold r absent step c else absent
termination_by h

theorem fold_of_get? {r : Registry} {absent : α}
    {step : Handle → Descriptor Handle → (Handle → α) → α} {h : Handle} {d : Descriptor Handle}
    (hd : r.get? h = some d) :
    r.fold absent step h = step h d fun c => if c < h then r.fold absent step c else absent := by
  rw [fold, hd]
  rfl

theorem fold_of_get?_eq_none {r : Registry} {absent : α}
    {step : Handle → Descriptor Handle → (Handle → α) → α} {h : Handle}
    (hd : r.get? h = none) : r.fold absent step h = absent := by
  rw [fold, hd]

end Registry
end TypeBridge
