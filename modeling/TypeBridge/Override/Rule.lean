import TypeBridge.Override.Template

/-! # Overrides

Hand-written replacements of single source types, found by canonical name. A set of overrides holds
at most one for each name. -/

namespace TypeBridge

inductive Rule
  | rename (text : String)
  | template (t : Template)
deriving DecidableEq

namespace Rule

def usesArguments : Rule → Bool
  | rename _ => false
  | template t => t.usesArguments

def apply (cx : Context) : Rule → String
  | rename text => text
  | template t => t.render cx

end Rule

structure Override where
  /-- The canonical name of the type that is replaced. -/
  typeName : String
  rule : Rule
  /-- The replacement stands for a bound type as it is, without arguments after it. -/
  skipsArguments : Bool := false
deriving DecidableEq

namespace Override

def rename (typeName text : String) : Override where
  typeName
  rule := .rename text

def template (typeName source : String) : Except TemplateError Override := do
  return { typeName, rule := .template (← Template.parse source) }

def skippingArguments (o : Override) : Override :=
  { o with skipsArguments := true }

end Override
end TypeBridge
