import TypeBridge.Mapping.Mapper

/-! # Types of syntax nodes

Mapping through a front end that knows the types of nodes. A node whose own type is an error often
has a parent that carries the type, so the parent is asked, once. -/

namespace TypeBridge

inductive NodeType
  | known (h : Handle)
  /-- The node has an error in the place of a type. -/
  | error
  | unknown
deriving DecidableEq

namespace NodeType

def handle? : NodeType → Option Handle
  | known h => some h
  | error | unknown => none

end NodeType

structure FrontEnd (ν : Type) where
  typeAt : ν → NodeType
  parent? : ν → Option ν
  /-- The text that stands for a node in a message. -/
  describe : ν → String

variable {ν : Type}

/-- The type of a node, or of its parent where the node's own is an error. -/
def FrontEnd.typeOf? (fe : FrontEnd ν) (node : ν) : Option Handle :=
  match fe.typeAt node with
  | .error => (fe.parent? node).bind fun parent => (fe.typeAt parent).handle?
  | type => type.handle?

namespace Mapper

def nodeText? (m : Mapper) (fe : FrontEnd ν) (node : ν) : Mapping (Option String) :=
  match fe.typeOf? node with
  | some h => m.mapText h
  | none => pure none

def nodeText (m : Mapper) (fe : FrontEnd ν) (node : ν) : Mapping String := do
  match ← m.nodeText? fe node with
  | some text => return text
  | none => throw (.unresolved (fe.describe node))

def nodeSuffix (m : Mapper) (fe : FrontEnd ν) (node : ν) : Mapping String := do
  match ← m.nodeText? fe node with
  | some text => return ": " ++ text
  | none => return ""

end Mapper
end TypeBridge
