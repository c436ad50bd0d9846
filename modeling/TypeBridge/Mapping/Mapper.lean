import TypeBridge.Mapping.Memo
import TypeBridge.Mapping.Outline
import TypeBridge.Override.Overrides
import TypeBridge.Source.Name

/-! # Mapping types

How a source type is spelled in the target language. `Mapper.outline` is the rules, first match
first; `Mapper.spelling` follows them through all nested types, and `Mapper.remember` does the same
over a memo. Types that nest too deeply are refused before anything is looked up. -/

namespace TypeBridge

inductive MappingError
  /-- A node must have a type, and none is known. -/
  | unresolved (node : String)
  | depthExceeded (limit : Nat) (h : Handle)
  | unknown (e : UnknownHandle)
deriving DecidableEq

def MappingError.message : MappingError → String
  | unresolved node => "type could not be determined for node " ++ node
  | depthExceeded limit h =>
    "type nesting exceeds the limit of " ++ toString limit ++ " at TypeId(" ++ toString h ++ ")"
  | unknown e => e.message

/-- A mapping answer, found over a memo. -/
abbrev Mapping (α : Type) := ExceptT MappingError (StateM Memo) α

/-- The name of a record type after its member names. Types that differ only in the types of their
members share it. -/
def recordName (members : List (String × Handle)) : String :=
  let plain (c : Char) : Char := if c.isAlphanum then c else '_'
  "Anon" ++ String.join (members.map fun m => "_" ++ m.1.map plain)

def defaultName (namespaceName name : String) : String :=
  if namespaceName.isEmpty then name else Text.lowercase namespaceName ++ "." ++ name

structure Mapper where
  registry : Registry
  overrides : Overrides := .empty
  nameRecord : Registry → Handle → List (String × Handle) → String := fun _ _ ms => recordName ms
  /-- Types with longer chains of references are refused. -/
  maxDepth : Nat := 256
  /-- Written for a nested type that has no spelling. -/
  fallback : String := Target.dynamic

namespace Mapper

def override? (m : Mapper) (h : Handle) : Option Override :=
  m.overrides.lookup (m.registry.canonicalName h)

/-- The definition and the arguments with which a bound type is written, if it is. -/
def expansion? (m : Mapper) (h : Handle) : Option (Handle × List Handle) :=
  if m.registry.isBoundGeneric h && !(m.override? h).any (·.skipsArguments) then
    match m.registry.definition? h, m.registry.writtenArguments h with
    | some unbound, first :: rest => some (unbound, first :: rest)
    | _, _ => none
  else none

def namedOutline (m : Mapper) (h : Handle) : Outline Handle :=
  match m.expansion? h with
  | some (unbound, arguments) => .applied unbound arguments
  | none =>
    match standardSpelling? (m.registry.canonicalName h) with
    | some s => .fixed s
    | none =>
      let (name, namespaceName) := m.registry.declaredName h
      match m.override? h with
      | some o =>
        .replaced o.rule name namespaceName
          (if o.rule.usesArguments then m.registry.writtenArguments h else [])
      | none => .fixed (.written (defaultName namespaceName name))

def isByte (m : Mapper) (h : Handle) : Bool :=
  (m.registry.get? h).any (·.form.builtin? = some .byte)

def outline (m : Mapper) (h : Handle) : Outline Handle :=
  match m.registry.get? h with
  | none => .fixed .inferred
  | some d =>
    match d.form with
    | .record members => .fixed (.written (m.nameRecord m.registry h members))
    | .array element =>
      if m.isByte element then .fixed (.written Target.bytes) else .array element
    | .parameter name => .fixed (.written name)
    | .delegate _ params result => .function params result
    | .enumeration _ => .fixed (.written Target.int)
    | .nullable inner => .nullable inner
    | .builtin _ | .named _ => m.namedOutline h

/-- The spelling of a type by the rules alone. -/
def spelling (m : Mapper) (h : Handle) : Spelling :=
  ((m.outline h).map fun c =>
    if _hc : c < h then (m.spelling c).textOr m.fallback else m.fallback).spelling m.fallback
termination_by h

/-- The spelling of a type over a memo, which afterwards holds every type met on the way. -/
def remember (m : Mapper) (h : Handle) : StateM Memo Spelling :=
  Memo.remember h do
    let filled ← (m.outline h).fill fun c =>
      if _hc : c < h then (·.textOr m.fallback) <$> m.remember c else pure m.fallback
    return filled.spelling m.fallback
termination_by h

/-- The spelling of a type that does not nest too deeply. -/
def map (m : Mapper) (h : Handle) : Mapping Spelling := do
  match m.registry.depth? h with
  | none => throw (.unknown ⟨m.registry.size, h⟩)
  | some depth =>
    if m.maxDepth < depth then throw (.depthExceeded m.maxDepth h)
    else m.remember h

def mapText (m : Mapper) (h : Handle) : Mapping (Option String) :=
  (·.text?) <$> m.map h

def suffix (m : Mapper) (h : Handle) : Mapping String :=
  (·.suffix) <$> m.map h

def mapAll (m : Mapper) (hs : List Handle) : StateM Memo (List (Except MappingError Spelling)) :=
  hs.mapM fun h => (m.map h).run

/-- Whether values of the type are copied in the source language and have to be copied by hand in
the target. -/
def needsPromotion (m : Mapper) (h : Handle) : Mapping Bool := do
  match m.registry.find h with
  | .error e => throw (.unknown e)
  | .ok d =>
    if d.isValue then return !((← m.map h).text?.any Target.isNativeValue) else return false

end Mapper
end TypeBridge
