import TypeBridge.Json.Reader
import TypeBridge.Override.Rule

/-! # Override documents

The JSON form of a list of overrides: an object whose one member `overrides` is a list of entries,
or a list of one element in its place. `Document.decode` accepts exactly this form and otherwise
says what is wrong first, in the order in which the document is written; `Document.encode` writes
it. -/

namespace TypeBridge

inductive DocumentError
  | malformed
  | missingField (name : String)
  | duplicateField (name : String)
  | unknownField (name : String)
  | unknownRule (name : String)
  | unknownRuleNumber (n : Int)
  /-- The document is a list without an element. -/
  | emptyList
  | wrongKind (found expected : String)
deriving DecidableEq

namespace DocumentError

def reason : DocumentError → String
  | malformed => "invalid JSON"
  | missingField name => "missing field `" ++ name ++ "`"
  | duplicateField name => "duplicate field `" ++ name ++ "`"
  | unknownField name => "unknown field `" ++ name ++ "`, expected `overrides`"
  | unknownRule name => "unknown variant `" ++ name ++ "`, expected `rename` or `template`"
  | unknownRuleNumber n =>
    "invalid value: integer `" ++ toString n ++ "`, expected variant index 0 <= i < 2"
  | emptyList => "invalid length 0, expected struct OverrideFile with 1 element"
  | wrongKind found expected => "invalid type: " ++ found ++ ", expected " ++ expected

def message (e : DocumentError) : String :=
  "malformed override configuration: " ++ e.reason

end DocumentError

namespace Document

inductive EntryRule
  | rename (text : String)
  | template (source : String)
deriving DecidableEq

/-- An entry as it is written, its template not yet read. -/
structure Entry where
  typeName : String
  rule : EntryRule
  skipsArguments : Bool := false
deriving DecidableEq

def unexpected (expected : String) : Json → DocumentError
  | .malformed => .malformed
  | v => .wrongKind v.kind expected

def text : Json → Except DocumentError String
  | .string s => .ok s
  | v => .error (unexpected "a string" v)

def flag : Json → Except DocumentError Bool
  | .bool b => .ok b
  | v => .error (unexpected "a boolean" v)

/-- The member called `name`, read by `read`: there is at most one. -/
def field {α : Type} (name : String) (read : Json → Except DocumentError α)
    (found : Option α) (member : String × Json) : Except DocumentError (Option α) :=
  if member.1 = name then
    if found.isSome then .error (.duplicateField name) else some <$> read member.2
  else .ok found

def required {α : Type} (name : String) (read : Json → Except DocumentError α)
    (members : List (String × Json)) : Except DocumentError α := do
  match ← members.foldlM (field name read) none with
  | some v => .ok v
  | none => .error (.missingField name)

inductive RuleName
  | rename
  | template
deriving DecidableEq

def ruleName : Json → Except DocumentError RuleName
  | .string "rename" => .ok .rename
  | .string "template" => .ok .template
  | .string s => .error (.unknownRule s)
  | .number (.integer n) =>
    if n = 0 then .ok .rename
    else if n = 1 then .ok .template
    else if n < 0 then .error (.wrongKind (Json.number (.integer n)).kind "variant identifier")
    else .error (.unknownRuleNumber n)
  | v => .error (unexpected "variant identifier" v)

structure Header where
  typeName : Option String := none
  skipsArguments : Option Bool := none

def Header.take (h : Header) (member : String × Json) : Except DocumentError Header := do
  let typeName ← field "type" text h.typeName member
  let skipsArguments ← field "skip_generic_args" flag h.skipsArguments member
  return { typeName, skipsArguments }

def rule (members : List (String × Json)) : Except DocumentError EntryRule := do
  match ← required "rule" ruleName members with
  | .rename => .rename <$> required "to" text members
  | .template => .template <$> required "template" text members

def entry : Json → Except DocumentError Entry
  | .object members closed => do
    let header ← members.foldlM Header.take {}
    if !closed then throw .malformed
    match header.typeName with
    | none => throw (.missingField "type")
    | some typeName =>
      return { typeName, rule := ← rule members,
               skipsArguments := header.skipsArguments.getD false }
  | v => .error (unexpected "struct RawOverride" v)

def entries : Json → Except DocumentError (List Entry)
  | .list items closed => do
    let decoded ← items.mapM entry
    if closed then return decoded else throw .malformed
  | v => .error (unexpected "a sequence" v)

def takeEntries (found : Option (List Entry)) (member : String × Json) :
    Except DocumentError (Option (List Entry)) :=
  if member.1 = "overrides" then field "overrides" entries found member
  else .error (.unknownField member.1)

def decode : Json → Except DocumentError (List Entry)
  | .object members closed => do
    let found ← members.foldlM takeEntries none
    if !closed then throw .malformed
    match found with
    | some decoded => return decoded
    | none => throw (.missingField "overrides")
  | .list [] closed => .error (if closed then .emptyList else .malformed)
  | .list (first :: rest) closed => do
    let decoded ← entries first
    if rest.isEmpty && closed then return decoded else throw .malformed
  | v => .error (unexpected "struct OverrideFile" v)

def ofReading (r : Json.Reading) : Except DocumentError (List Entry) := do
  let decoded ← decode r.root
  if r.complete then return decoded else throw .malformed

def encodeEntry (e : Entry) : Json :=
  let rule := match e.rule with
    | .rename text => [("rule", Json.string "rename"), ("to", .string text)]
    | .template source => [("rule", .string "template"), ("template", .string source)]
  .object (("type", .string e.typeName) :: rule ++ [("skip_generic_args", .bool e.skipsArguments)])
    true

def encode (es : List Entry) : Json :=
  .object [("overrides", .list (es.map encodeEntry) true)] true

end Document
end TypeBridge
