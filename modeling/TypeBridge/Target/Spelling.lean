/-! # Spellings in the target language

What a source type becomes: a type expression, or the decision to write none and to let the target
infer the type. Beside it stand the names that the target itself gives a meaning to. -/

namespace TypeBridge

inductive Spelling
  | written (text : String)
  /-- Nothing is written: the target infers the type. -/
  | inferred
deriving DecidableEq

namespace Spelling

def text? : Spelling → Option String
  | written text => some text
  | inferred => none

/-- The text, or `fallback` where a text is needed and there is none. -/
def textOr (fallback : String) : Spelling → String
  | written text => text
  | inferred => fallback

/-- What a declaration carries after its name: nothing when the type is inferred. -/
def suffix (s : Spelling) : String :=
  match s.text? with
  | some text => ": " ++ text
  | none => ""

end Spelling

namespace Target

def int : String := "Int"
def float : String := "Float"
def bool : String := "Bool"
def string : String := "String"
def void : String := "Void"
def dynamic : String := "Dynamic"
/-- The sequence type that every list-like source collection becomes. -/
def array : String := "Array"
def list : String := "List"
/-- The binary buffer that an array of bytes becomes. -/
def bytes : String := "haxe.io.Bytes"
/-- The wrapper of an optional value that has no wrapper of its own. -/
def nullable : String := "Nullable"

def isNativeValue (text : String) : Bool :=
  text == int || text == float || text == bool || text == string

def optionalPrimitive? (text : String) : Option String :=
  if text == int || text == float || text == bool then some (nullable ++ "_" ++ text) else none

def initialValue (text : String) : String :=
  if text == int || text == float then "0"
  else if text == bool then "false"
  else "null"

def withoutArguments (text : String) : String :=
  String.ofList (text.toList.takeWhile (· != '<'))

theorem toList_withoutArguments (text : String) :
    (withoutArguments text).toList = text.toList.takeWhile (· != '<') :=
  String.toList_ofList

def optional (text : String) : String :=
  (optionalPrimitive? text).getD (nullable ++ "<" ++ text ++ ">")

def applied (head : String) (arguments : List String) : String :=
  head ++ "<" ++ ", ".intercalate arguments ++ ">"

/-- A function type. One without parameters takes `Void`. -/
def function (params : List String) (result : String) : String :=
  "(" ++ " -> ".intercalate ((if params.isEmpty then [void] else params) ++ [result]) ++ ")"

end Target

/-- The fixed spelling of built-in types and of the standard containers, by canonical name. -/
def standardSpelling? (canonicalName : String) : Option Spelling :=
  match canonicalName with
  | "System.Void" => some (.written Target.void)
  | "System.Boolean" => some (.written Target.bool)
  | "System.Object" => some (.written Target.dynamic)
  | "System.String" => some (.written Target.string)
  | "System.Int64" | "System.UInt64" | "System.Single" | "System.Double" =>
    some (.written Target.float)
  | "System.Int32" | "System.UInt32" | "System.Byte" | "System.SByte" | "System.Int16"
  | "System.UInt16" | "System.Char" => some (.written Target.int)
  | "System.Collections.Generic.List<>" | "System.Collections.Generic.IList<>"
  | "System.Collections.Generic.Queue<>" | "System.Collections.Generic.Stack<>"
  | "System.Collections.Generic.IEnumerable<>" | "System.Collections.Generic.ICollection<>"
  | "System.Collections.Generic.Dictionary<,>.ValueCollection"
  | "System.Collections.Generic.Dictionary<,>.KeyCollection"
  | "System.Linq.IOrderedEnumerable<>" | "System.Collections.IEnumerable"
  | "System.Collections.Specialized.NameObjectCollectionBase.KeysCollection" =>
    some (.written Target.array)
  | "System.Collections.Generic.LinkedList<>" => some (.written Target.list)
  | "System.Array" => some .inferred
  | _ => none

end TypeBridge
