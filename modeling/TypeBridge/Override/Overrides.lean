import Std.Data.ExtTreeMap
import TypeBridge.Override.Document

/-! # Sets of overrides

At most one override for each canonical name, built from a list in memory or from a document. The
list is taken from left to right, and the first entry that cannot be taken decides the error. -/

namespace TypeBridge

structure Overrides where
  byName : Std.ExtTreeMap String Override := ∅

inductive LoadError
  | document (e : DocumentError)
  | template (typeName source : String) (e : TemplateError)
  | duplicate (typeName : String)
deriving DecidableEq

def LoadError.message : LoadError → String
  | document e => e.message
  | template typeName source e =>
    "override for `" ++ typeName ++ "` has an invalid template `" ++ source ++ "`: " ++ e.message
  | duplicate typeName => "duplicate override for `" ++ typeName ++ "`"

namespace Override

def ofEntry (entry : Document.Entry) : Except LoadError Override := do
  let rule ← match entry.rule with
    | .rename text => .ok (Rule.rename text)
    | .template source =>
      match Template.parse source with
      | .ok t => .ok (Rule.template t)
      | .error e => .error (.template entry.typeName source e)
  return { typeName := entry.typeName, rule, skipsArguments := entry.skipsArguments }

def toEntry (o : Override) : Document.Entry where
  typeName := o.typeName
  rule := match o.rule with
    | .rename text => .rename text
    | .template t => .template t.source
  skipsArguments := o.skipsArguments

end Override

namespace Overrides

def empty : Overrides := {}

def lookup (os : Overrides) (canonicalName : String) : Option Override :=
  os.byName[canonicalName]?

def size (os : Overrides) : Nat :=
  os.byName.size

/-- All overrides, in the order of their names. -/
def toList (os : Overrides) : List Override :=
  os.byName.toList.map (·.2)

def insert (os : Overrides) (o : Override) : Except LoadError Overrides :=
  if o.typeName ∈ os.byName then .error (.duplicate o.typeName)
  else .ok ⟨os.byName.insert o.typeName o⟩

theorem lookup_empty (n : String) : empty.lookup n = none := by
  simp [empty, lookup]

theorem lookup_of_insert {os os' : Overrides} {o : Override} (h : os.insert o = .ok os')
    (n : String) : os'.lookup n = if o.typeName = n then some o else os.lookup n := by
  unfold insert at h
  split at h
  · cases h
  · cases h
    simp [lookup, Std.ExtTreeMap.getElem?_insert]

def ofList (list : List Override) : Except LoadError Overrides :=
  list.foldlM insert empty

def ofEntries (entries : List Document.Entry) : Except LoadError Overrides :=
  entries.foldlM (fun os entry => do os.insert (← Override.ofEntry entry)) empty

def ofReading (r : Json.Reading) : Except LoadError Overrides := do
  ofEntries (← (Document.ofReading r).mapError .document)

def ofText (text : String) : Except LoadError Overrides :=
  ofReading (.ofString text)

def ofBytes (bytes : ByteArray) : Except LoadError Overrides :=
  ofReading (.ofBytes bytes)

end Overrides
end TypeBridge
