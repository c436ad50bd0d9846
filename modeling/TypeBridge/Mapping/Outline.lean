import TypeBridge.Override.Rule
import TypeBridge.Target.Spelling

/-! # Outlines

An outline is the spelling of one type with holes of type `ρ` for the types that it is written
with. The rules give the outline of a type over handles; filling the holes with texts gives its
spelling. So the rules say in one place what a type needs, whether a memo is kept or not. -/

namespace TypeBridge

inductive Outline (ρ : Type)
  | fixed (s : Spelling)
  | array (element : ρ)
  | function (params : List ρ) (result : ρ)
  | nullable (inner : ρ)
  /-- A generic type with its arguments. -/
  | applied (head : ρ) (arguments : List ρ)
  /-- A hand-written replacement, with the arguments that it looks at. -/
  | replaced (rule : Rule) (name namespaceName : String) (arguments : List ρ)

namespace Outline

variable {ρ σ : Type}

/-- The holes, in the order in which they are filled. -/
def holes : Outline ρ → List ρ
  | fixed _ => []
  | array element => [element]
  | function params result => params ++ [result]
  | nullable inner => [inner]
  | applied head arguments => head :: arguments
  | replaced _ _ _ arguments => arguments

def map (f : ρ → σ) : Outline ρ → Outline σ
  | fixed s => .fixed s
  | array element => .array (f element)
  | function params result => .function (params.map f) (f result)
  | nullable inner => .nullable (f inner)
  | applied head arguments => .applied (f head) (arguments.map f)
  | replaced rule name namespaceName arguments =>
    .replaced rule name namespaceName (arguments.map f)

@[specialize]
def fill {m : Type → Type} [Monad m] (f : ρ → m σ) : Outline ρ → m (Outline σ)
  | fixed s => return .fixed s
  | array element => return .array (← f element)
  | function params result => return .function (← params.mapM f) (← f result)
  | nullable inner => return .nullable (← f inner)
  | applied head arguments => return .applied (← f head) (← arguments.mapM f)
  | replaced rule name namespaceName arguments =>
    return .replaced rule name namespaceName (← arguments.mapM f)

def spelling (fallback : String) : Outline String → Spelling
  | fixed s => s
  | array element => .written (Target.applied Target.array [element])
  | function params result => .written (Target.function params result)
  | nullable inner => .written (Target.optional inner)
  | applied head arguments => .written (Target.applied head arguments)
  | replaced rule name namespaceName arguments =>
    .written (rule.apply { name, namespaceName, arguments, fallback })

theorem holes_map (f : ρ → σ) (o : Outline ρ) : (o.map f).holes = o.holes.map f := by
  cases o <;> simp [holes, map]

end Outline
end TypeBridge
