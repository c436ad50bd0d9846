import TypeBridge.Source.Builtin

/-! # Type descriptors

A descriptor is one layer of a type: its form, with a reference `ρ` in place of every type that it
is made of. Over handles it is what a registry stores; over texts or answers it is what one step of
a recursion sees. -/

namespace TypeBridge

/-- What a declaration gives a type: its place, its name and its generic state. A type is bound
when it has a definition, the generic type that it was made from. -/
structure Declared (ρ : Type) where
  namespaceName : String
  name : String
  outer : Option ρ := none
  /-- The number of type parameters that the type itself declares. -/
  arity : Nat := 0
  arguments : List ρ := []
  definition : Option ρ := none
deriving DecidableEq

inductive Form (ρ : Type)
  | builtin (b : Builtin)
  | named (d : Declared ρ)
  | array (element : ρ)
  | parameter (name : String)
  | delegate (d : Declared ρ) (params : List ρ) (result : ρ)
  | enumeration (d : Declared ρ)
  | record (members : List (String × ρ))
  | nullable (inner : ρ)
deriving DecidableEq

structure Descriptor (ρ : Type) where
  form : Form ρ
  /-- Whether values are copied rather than shared. -/
  isValue : Bool := false
deriving DecidableEq

variable {ρ σ : Type}

namespace Declared

/-- All references, in the order in which they are followed. -/
def references (d : Declared ρ) : List ρ :=
  d.arguments ++ d.outer.toList ++ d.definition.toList

def map (f : ρ → σ) (d : Declared ρ) : Declared σ where
  namespaceName := d.namespaceName
  name := d.name
  outer := d.outer.map f
  arity := d.arity
  arguments := d.arguments.map f
  definition := d.definition.map f

def isBound (d : Declared ρ) : Bool :=
  d.definition.isSome

def isNullable (d : Declared ρ) : Bool :=
  d.outer.isNone && d.arity = 1 && d.namespaceName = "System" && d.name = "Nullable"

theorem references_map (f : ρ → σ) (d : Declared ρ) :
    (d.map f).references = d.references.map f := by
  simp [references, map, Option.toList_map]

end Declared

namespace Form

/-- All references, in the order in which they are followed. -/
def references : Form ρ → List ρ
  | builtin _ | parameter _ => []
  | named d | enumeration d => d.references
  | array e => [e]
  | delegate d params result => d.references ++ params ++ [result]
  | record members => members.map (·.2)
  | nullable inner => [inner]

def map (f : ρ → σ) : Form ρ → Form σ
  | builtin b => .builtin b
  | named d => .named (d.map f)
  | array e => .array (f e)
  | parameter name => .parameter name
  | delegate d params result => .delegate (d.map f) (params.map f) (f result)
  | enumeration d => .enumeration (d.map f)
  | record members => .record (members.map fun m => (m.1, f m.2))
  | nullable inner => .nullable (f inner)

def declared? : Form ρ → Option (Declared ρ)
  | named d | enumeration d | delegate d _ _ => some d
  | _ => none

def builtin? : Form ρ → Option Builtin
  | builtin b => some b
  | _ => none

def arguments : Form ρ → List ρ
  | nullable inner => [inner]
  | form => match form.declared? with
    | some d => d.arguments
    | none => []

def definition? (form : Form ρ) : Option ρ :=
  form.declared?.bind (·.definition)

theorem references_map (f : ρ → σ) (form : Form ρ) :
    (form.map f).references = form.references.map f := by
  cases form <;> simp [references, map, Declared.references_map]

end Form

namespace Descriptor

def references (d : Descriptor ρ) : List ρ :=
  d.form.references

def map (f : ρ → σ) (d : Descriptor ρ) : Descriptor σ where
  form := d.form.map f
  isValue := d.isValue

theorem references_map (f : ρ → σ) (d : Descriptor ρ) :
    (d.map f).references = d.references.map f :=
  Form.references_map f d.form

end Descriptor
end TypeBridge
