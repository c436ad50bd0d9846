import TypeBridge.Source.Registry

/-! # Generic types

A type is generic when it or a type around it has type parameters; it is unbound as long as no
definition stands behind it. -/

namespace TypeBridge

/-- Whether a form is generic, given which of its outer types are. -/
def Form.isGeneric {ρ : Type} (outerIsGeneric : ρ → Bool) : Form ρ → Bool
  | .nullable _ => true
  | form => form.declared?.any fun d => 0 < d.arity || d.outer.any outerIsGeneric

namespace Registry

def isGeneric (r : Registry) : Handle → Bool :=
  r.fold false fun _ d earlier => d.form.isGeneric earlier

def isUnbound (r : Registry) (h : Handle) : Bool :=
  match (r.get? h).bind (·.form.declared?) with
  | some d => !d.isBound && r.isGeneric h
  | none => false

def isBoundGeneric (r : Registry) (h : Handle) : Bool :=
  r.isGeneric h && !r.isUnbound h

def definition? (r : Registry) (h : Handle) : Option Handle :=
  (r.get? h).bind (·.form.definition?)

def arguments (r : Registry) (h : Handle) : List Handle :=
  match r.get? h with
  | some d => d.form.arguments
  | none => []

def isValue (r : Registry) (h : Handle) : Bool :=
  (r.get? h).any (·.isValue)

end Registry
end TypeBridge
