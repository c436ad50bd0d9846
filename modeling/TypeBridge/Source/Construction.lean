import TypeBridge.Source.Display

/-! # Constructions

All ways to put a type into a registry, as functions and as data. A construction that fails says
what is wrong with the type that it was given. -/

namespace TypeBridge
namespace Registry

def builtin (b : Builtin) : Build Handle :=
  intern ⟨.builtin b, b.isValue⟩

def generic (namespaceName name : String) (arity : Nat) (isValue : Bool) : Build Handle :=
  intern ⟨.named { namespaceName, name, arity }, isValue⟩

def named (namespaceName name : String) (isValue : Bool) : Build Handle :=
  generic namespaceName name 0 isValue

def array (element : Handle) : Build Handle :=
  intern ⟨.array element, false⟩

def parameter (name : String) : Build Handle :=
  intern ⟨.parameter name, false⟩

def enumeration (namespaceName name : String) : Build Handle :=
  intern ⟨.enumeration { namespaceName, name }, true⟩

def nullable (inner : Handle) : Build Handle :=
  intern ⟨.nullable inner, true⟩

def record (members : List (String × Handle)) : Build Handle :=
  intern ⟨.record members, false⟩

def delegate (namespaceName name : String) (arity : Nat) (params : List Handle)
    (result : Handle) : Build Handle :=
  intern ⟨.delegate { namespaceName, name, arity } params result, false⟩

def known (h : Handle) : Build (Descriptor Handle) := do
  MonadExcept.ofExcept (((← get : Registry).find h).mapError .unknown)

/-- A type declared inside another. Inside a bound type it is bound too: its definition is the type
of the same name inside the outer type's definition. -/
def nested (outer : Handle) (name : String) (arity : Nat) (isValue : Bool) : Build Handle := do
  match (← known outer).form with
  | .named around =>
    let definition ← match around.definition with
      | some d => if _hd : d < outer then some <$> nested d name arity isValue else pure none
      | none => pure none
    intern ⟨.named { namespaceName := around.namespaceName, name, outer := some outer, arity,
                     definition }, isValue⟩
  | _ => throw (.notAContainer ((← get : Registry).display outer))
termination_by outer

def bound (r : Registry) (definition : Handle) (d : Declared Handle) (arguments : List Handle) :
    Except BuildError (Declared Handle) :=
  if d.arity = 0 || !d.arguments.isEmpty then
    .error (.notGenericDefinition (r.display definition))
  else if d.arity ≠ arguments.length then
    .error (.arityMismatch (r.display definition) d.arity arguments.length)
  else .ok { d with arguments, definition := some (d.definition.getD definition) }

def bind (definition : Handle) (d : Declared Handle) (arguments : List Handle) :
    Build (Declared Handle) := do
  MonadExcept.ofExcept ((← get : Registry).bound definition d arguments)

/-- A generic type with its parameters bound. The optional values have a form of their own. -/
def instantiate (definition : Handle) (arguments : List Handle) : Build Handle := do
  let found ← known definition
  match found.form with
  | .named d =>
    let bound ← bind definition d arguments
    match bound.isNullable, bound.arguments with
    | true, [inner] => nullable inner
    | _, _ => intern ⟨.named bound, found.isValue⟩
  | _ => throw (.notGenericDefinition ((← get : Registry).display definition))

/-- A generic delegate with its parameters bound; its signature is given anew. -/
def instantiateDelegate (definition : Handle) (arguments params : List Handle)
    (result : Handle) : Build Handle := do
  match (← known definition).form with
  | .delegate d _ _ =>
    let bound ← bind definition d arguments
    intern ⟨.delegate bound params result, false⟩
  | _ => throw (.notGenericDefinition ((← get : Registry).display definition))

end Registry

inductive Construction
  | builtin (b : Builtin)
  | named (namespaceName name : String) (isValue : Bool)
  | generic (namespaceName name : String) (arity : Nat) (isValue : Bool)
  | nested (outer : Handle) (name : String) (arity : Nat) (isValue : Bool)
  | instantiate (definition : Handle) (arguments : List Handle)
  | array (element : Handle)
  | parameter (name : String)
  | enumeration (namespaceName name : String)
  | nullable (inner : Handle)
  | record (members : List (String × Handle))
  | delegate (namespaceName name : String) (arity : Nat) (params : List Handle) (result : Handle)
  | instantiateDelegate (definition : Handle) (arguments params : List Handle) (result : Handle)
  /-- Any descriptor, whether or not its parts fit together. -/
  | raw (d : Descriptor Handle)
deriving DecidableEq

namespace Construction

def perform : Construction → Build Handle
  | builtin b => Registry.builtin b
  | named namespaceName name isValue => Registry.named namespaceName name isValue
  | generic namespaceName name arity isValue => Registry.generic namespaceName name arity isValue
  | nested outer name arity isValue => Registry.nested outer name arity isValue
  | instantiate definition arguments => Registry.instantiate definition arguments
  | array element => Registry.array element
  | parameter name => Registry.parameter name
  | enumeration namespaceName name => Registry.enumeration namespaceName name
  | nullable inner => Registry.nullable inner
  | record members => Registry.record members
  | delegate namespaceName name arity params result =>
    Registry.delegate namespaceName name arity params result
  | instantiateDelegate definition arguments params result =>
    Registry.instantiateDelegate definition arguments params result
  | raw d => Registry.intern d

def isRaw : Construction → Bool
  | raw _ => true
  | _ => false

/-- The registry after a construction, whether it succeeds or not. -/
def after (c : Construction) (r : Registry) : Registry :=
  (c.perform.run.run r).2

end Construction

def Registry.ofConstructions (cs : List Construction) : Registry :=
  cs.foldl (fun r c => c.after r) .empty

end TypeBridge
