import TypeBridge.Source.Display

/-! # Names of source types

The canonical name stands for a type whatever is bound in it, and is the key of every rule. The
declared name is what a rule writes. -/

namespace TypeBridge.Registry

def canonicalName (r : Registry) : Handle → String :=
  r.fold "" fun h d earlier =>
    match d.form with
    | .array element => earlier element ++ "[]"
    | .builtin b => b.qualifiedName
    | .nullable _ => "System.Nullable<>"
    | form =>
      match r.isBoundGeneric h, form.definition? with
      | true, some unbound => earlier unbound
      | _, _ => r.display h

/-- The name of a declared type after the names of the types around it. -/
def flatName? (r : Registry) : Handle → Option String :=
  r.fold none fun _ d earlier =>
    d.form.declared?.map fun declared =>
      match declared.outer.bind earlier with
      | some outer => outer ++ "_" ++ declared.name
      | none => declared.name

def declaredName (r : Registry) (h : Handle) : String × String :=
  match r.get? h with
  | some ⟨.builtin b, _⟩ => (b.metadataName, b.namespaceName)
  | some ⟨.named d, _⟩ | some ⟨.enumeration d, _⟩ | some ⟨.delegate d _ _, _⟩ =>
    ((r.flatName? h).getD d.name, d.namespaceName)
  | _ => (r.display h, "")

/-- Nested types that show one argument of the type around them, and which. -/
def views : List (String × Nat) :=
  [("KeyCollection", 0), ("ValueCollection", 1)]

/-- The argument that a nested view takes from the type around it. -/
def borrowed? (r : Registry) (d : Declared Handle) : Option Handle := do
  let outer ← d.outer
  let position ← views.lookup d.name
  (r.arguments outer)[position]?

/-- The arguments with which a bound generic type is written. -/
def writtenArguments (r : Registry) (h : Handle) : List Handle :=
  match ((r.get? h).bind (·.form.declared?)).bind r.borrowed? with
  | some argument => [argument]
  | none => r.arguments h

end TypeBridge.Registry
