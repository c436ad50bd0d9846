import TypeBridge.Source.Generic

/-! # Display forms

The text by which people read a type: keywords for built-in types, arguments in angle brackets, and
commas in the place of arguments that are not bound. -/

namespace TypeBridge

/-- The brackets of an unbound type: one comma less than it has parameters. -/
def arityMarker (arity : Nat) : String :=
  if arity = 0 then "" else "<" ++ String.ofList (List.replicate (arity - 1) ',') ++ ">"

variable {ρ : Type}

def Builtin.display (b : Builtin) : String :=
  b.keyword?.getD b.qualifiedName

namespace Declared

/-- What stands before the name: the outer type, or the namespace of a type without one. -/
def qualifier (text : ρ → String) (d : Declared ρ) : String :=
  match d.outer with
  | some outer => text outer ++ "."
  | none => if d.namespaceName.isEmpty then "" else d.namespaceName ++ "."

/-- What stands after the name: the arguments, or their places. -/
def generics (text : ρ → String) (d : Declared ρ) : String :=
  if d.arguments.isEmpty then arityMarker d.arity
  else "<" ++ ", ".intercalate (d.arguments.map text) ++ ">"

def display (text : ρ → String) (d : Declared ρ) : String :=
  d.qualifier text ++ d.name ++ d.generics text

end Declared

def Form.display (text : ρ → String) : Form ρ → String
  | .builtin b => b.display
  | .named d | .enumeration d | .delegate d _ _ => d.display text
  | .array element => text element ++ "[]"
  | .parameter name => name
  | .record members =>
    let shown := members.map fun m => text m.2 ++ " " ++ m.1
    "<anonymous type" ++ (if shown.isEmpty then "" else ": " ++ ", ".intercalate shown) ++ ">"
  | .nullable inner => text inner ++ "?"

def writeSeparated (separator : String) (write : ρ → String → String) : List ρ → String → String
  | [], text => text
  | [x], text => write x text
  | x :: xs, text => writeSeparated separator write xs (write x text ++ separator)

def Declared.displayInto (write : ρ → String → String) (d : Declared ρ) (text : String) : String :=
  let qualified := match d.outer with
    | some outer => write outer text ++ "."
    | none => if d.namespaceName.isEmpty then text else text ++ d.namespaceName ++ "."
  if d.arguments.isEmpty then qualified ++ d.name ++ arityMarker d.arity
  else writeSeparated ", " write d.arguments (qualified ++ d.name ++ "<") ++ ">"

/-- Writes a form after a text, given how the types it refers to are written. -/
def Form.displayInto (write : ρ → String → String) (form : Form ρ) (text : String) : String :=
  match form with
  | .builtin b => text ++ b.display
  | .named d | .enumeration d | .delegate d _ _ => d.displayInto write text
  | .array element => write element text ++ "[]"
  | .parameter name => text ++ name
  | .record members =>
    let started := text ++ "<anonymous type" ++ if members.isEmpty then "" else ": "
    writeSeparated ", " (fun m t => write m.2 t ++ " " ++ m.1) members started ++ ">"
  | .nullable inner => write inner text ++ "?"

namespace Registry

def display (r : Registry) : Handle → String :=
  r.fold "" fun _ d earlier => d.form.display earlier

/-- Writes the display form of a type after a text, piece by piece. -/
def displayInto (r : Registry) : Handle → String → String :=
  r.fold id fun _ d earlier => d.form.displayInto earlier

end Registry
end TypeBridge
