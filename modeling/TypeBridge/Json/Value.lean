import TypeBridge.Decimal.Shortest
import TypeBridge.Text.Quoted

/-! # JSON values

The tree of a JSON text, with object members in the order written and repeated ones kept. The tree
of a text that stops being JSON somewhere holds all that stands before that place: what is read
there is `malformed`, and the lists and objects around it are not closed. So a schema that follows
the tree meets its own offences and the text's in the order in which they are written. -/

namespace TypeBridge

namespace Json

inductive Number
  | integer (n : Int)
  | real (x : Float)

end Json

inductive Json
  | null
  | bool (b : Bool)
  | number (n : Json.Number)
  | string (s : String)
  | list (items : List Json) (closed : Bool)
  | object (members : List (String × Json)) (closed : Bool)
  | malformed

namespace Json

def kind : Json → String
  | null => "null"
  | bool b => "boolean `" ++ (if b then "true" else "false") ++ "`"
  | number (.integer n) => "integer `" ++ toString n ++ "`"
  | number (.real x) => "floating point `" ++ floatText x ++ "`"
  | string s => "string " ++ Text.quoted s
  | list _ _ => "sequence"
  | object _ _ => "map"
  | malformed => ""

end Json
end TypeBridge
