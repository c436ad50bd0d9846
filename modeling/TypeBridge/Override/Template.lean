import TypeBridge.Text.Lowercase

/-! # Replacement templates

A template is text with placeholders in braces: `{name}`, `{namespace}`, their lowercase forms,
`{args}` for all arguments and `{0}`, `{1}`, … for single ones. `Template.parse` reads a text from
left to right and stops at the first offence; `Template.source` writes a template back. -/

namespace TypeBridge

inductive Segment
  | literal (text : String)
  | name
  | nameLower
  | namespaceName
  | namespaceLower
  /-- All arguments, separated by commas. -/
  | arguments
  | argument (index : Nat)
deriving DecidableEq

inductive TemplateError
  | unknownPlaceholder (word : String)
  | unbalanced
deriving DecidableEq

structure Template where
  segments : List Segment
deriving DecidableEq

/-- What a replacement may refer to: the type that is replaced. -/
structure Context where
  name : String
  namespaceName : String
  /-- The spellings of the type arguments. -/
  arguments : List String
  /-- Stands in for an argument that the type does not have. -/
  fallback : String

namespace TemplateError

def message : TemplateError → String
  | unknownPlaceholder word => "unknown placeholder `\x7b" ++ word ++ "\x7d`"
  | unbalanced => "unbalanced braces"

end TemplateError

namespace Segment

/-- Argument positions fit a machine word. -/
def indexLimit : Nat := Nat.pow 2 64

/-- An argument position: ASCII digits after an optional plus sign, below `indexLimit`. -/
def index? (word : List Char) : Option Nat :=
  let digits := match word with
    | '+' :: rest => rest
    | all => all
  if digits.isEmpty || !digits.all Char.isDigit then none
  else
    let n := Nat.ofDigitChars 10 digits 0
    if n < indexLimit then some n else none

def ofWord? (word : String) : Option Segment :=
  match word with
  | "name" => some name
  | "name_lower" => some nameLower
  | "namespace" => some namespaceName
  | "namespace_lower" => some namespaceLower
  | "args" => some arguments
  | other => (index? other.toList).map argument

def source : Segment → String
  | literal text => text
  | name => "\x7bname\x7d"
  | nameLower => "\x7bname_lower\x7d"
  | namespaceName => "\x7bnamespace\x7d"
  | namespaceLower => "\x7bnamespace_lower\x7d"
  | arguments => "\x7bargs\x7d"
  | argument index => "\x7b" ++ String.ofList (Nat.toDigits 10 index) ++ "\x7d"

def render (cx : Context) : Segment → String
  | literal text => text
  | name => cx.name
  | nameLower => Text.lowercase cx.name
  | namespaceName => cx.namespaceName
  | namespaceLower => Text.lowercase cx.namespaceName
  | arguments => ", ".intercalate cx.arguments
  | argument index => cx.arguments[index]?.getD cx.fallback

def usesArguments : Segment → Bool
  | arguments | argument _ => true
  | _ => false

end Segment

namespace Template

structure Scan where
  segments : Array Segment := #[]
  inBraces : Bool := false
  /-- The literal or the placeholder that is being read. -/
  text : String := ""

namespace Scan

def withLiteral (s : Scan) : Array Segment :=
  if s.text.isEmpty then s.segments else s.segments.push (.literal s.text)

def step (s : Scan) (c : Char) : Except TemplateError Scan :=
  if s.inBraces then
    if c = '{' then .error .unbalanced
    else if c = '}' then
      match Segment.ofWord? s.text with
      | some segment => .ok { segments := s.segments.push segment }
      | none => .error (.unknownPlaceholder s.text)
    else .ok { s with text := s.text.push c }
  else if c = '{' then .ok { segments := s.withLiteral, inBraces := true }
  else if c = '}' then .error .unbalanced
  else .ok { s with text := s.text.push c }

def finish (s : Scan) : Except TemplateError Template :=
  if s.inBraces then .error .unbalanced else .ok ⟨s.withLiteral.toList⟩

end Scan

def parse (source : String) : Except TemplateError Template := do
  (← source.toList.foldlM Scan.step {}).finish

def source (t : Template) : String :=
  String.join (t.segments.map Segment.source)

def render (cx : Context) (t : Template) : String :=
  String.join (t.segments.map (Segment.render cx))

def usesArguments (t : Template) : Bool :=
  t.segments.any Segment.usesArguments

end Template
end TypeBridge
