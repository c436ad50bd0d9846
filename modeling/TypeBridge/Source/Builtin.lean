/-! # Built-in types

The types that the source language knows without a declaration. Most have a keyword; all have a
qualified metadata name, which is the one spelling by which rules refer to them. -/

namespace TypeBridge

inductive Builtin
  | object | void | boolean | char
  | sbyte | byte | int16 | uint16 | int32 | uint32 | int64 | uint64
  | decimal | single | double | string
  | intPtr | dateTime
  /-- The untyped base class of all arrays. -/
  | array
  /-- The sequence interface without an element type. -/
  | enumerable
deriving DecidableEq

namespace Builtin

/-- All built-ins, in the order in which they are numbered. -/
def all : List Builtin :=
  [object, void, boolean, char, sbyte, byte, int16, uint16, int32, uint32, int64, uint64,
    decimal, single, double, string, intPtr, dateTime, array, enumerable]

def name : Builtin → String
  | object => "Object"
  | void => "Void"
  | boolean => "Boolean"
  | char => "Char"
  | sbyte => "SByte"
  | byte => "Byte"
  | int16 => "Int16"
  | uint16 => "UInt16"
  | int32 => "Int32"
  | uint32 => "UInt32"
  | int64 => "Int64"
  | uint64 => "UInt64"
  | decimal => "Decimal"
  | single => "Single"
  | double => "Double"
  | string => "String"
  | intPtr => "IntPtr"
  | dateTime => "DateTime"
  | array => "Array"
  | enumerable => "Enumerable"

def ofName? (s : String) : Option Builtin :=
  all.find? (·.name == s)

def namespaceName : Builtin → String
  | enumerable => "System.Collections"
  | _ => "System"

/-- The declared name, never a keyword. -/
def metadataName : Builtin → String
  | enumerable => "IEnumerable"
  | b => b.name

def keyword? : Builtin → Option String
  | object => some "object"
  | void => some "void"
  | boolean => some "bool"
  | char => some "char"
  | sbyte => some "sbyte"
  | byte => some "byte"
  | int16 => some "short"
  | uint16 => some "ushort"
  | int32 => some "int"
  | uint32 => some "uint"
  | int64 => some "long"
  | uint64 => some "ulong"
  | decimal => some "decimal"
  | single => some "float"
  | double => some "double"
  | string => some "string"
  | intPtr | dateTime | array | enumerable => none

def isValue : Builtin → Bool
  | object | string | array | enumerable => false
  | _ => true

def qualifiedName (b : Builtin) : String :=
  b.namespaceName ++ "." ++ b.metadataName

theorem mem_all (b : Builtin) : b ∈ all := by
  cases b <;> decide

theorem ofName?_name (b : Builtin) : ofName? b.name = some b := by
  cases b <;> decide

end Builtin
end TypeBridge
