import TypeBridge.Json.Token

/-! # Reading JSON

The tree of a text, built token by token over the containers that are still open. -/

namespace TypeBridge.Json

/-- Containers may be nested this deep. -/
def maxNesting : Nat := 127

/-- A container that is still open. An object holds the key of the member that is being read. -/
inductive Frame
  | list (items : Array Json)
  | object (members : Array (String × Json)) (key : Option String)

inductive Expecting
  /-- A value, or the end of a list that is still empty. -/
  | value (orClose : Bool)
  /-- A key, or the end of an object that is still empty. -/
  | key (orClose : Bool)
  | colon
  | more

/-- The tree of a text. It is `complete` when the text holds nothing after it. -/
structure Reading where
  root : Json
  complete : Bool

inductive Reader
  | inside (frames : List Frame) (next : Expecting)
  | done (r : Reading)

namespace Reader

/-- The tree of what stands before a place where the text stops being JSON. -/
def unwind : Option Json → List Frame → Json
  | value, [] => value.getD .malformed
  | value, .list items :: frames =>
    unwind (some (.list (items.toList ++ value.toList) false)) frames
  | value, .object members key :: frames =>
    let last := key.map fun k => (k, value.getD .malformed)
    unwind (some (.object (members.toList ++ last.toList) false)) frames

def stop (frames : List Frame) : Reader :=
  .done ⟨unwind none frames, false⟩

def give (v : Json) : List Frame → Reader
  | [] => .done ⟨v, true⟩
  | .list items :: frames => .inside (.list (items.push v) :: frames) .more
  | .object members key :: frames =>
    .inside (.object (members.push (key.getD "", v)) none :: frames) .more

def close : List Frame → Reader
  | [] => stop []
  | .list items :: frames => give (.list items.toList true) frames
  | .object members _ :: frames => give (.object members.toList true) frames

def openFrame (frame : Frame) (next : Expecting) (frames : List Frame) : Reader :=
  if frames.length < maxNesting then .inside (frame :: frames) next else stop frames

def value (frames : List Frame) (orClose : Bool) : Token → Reader
  | .null => give .null frames
  | .bool b => give (.bool b) frames
  | .number n => give (.number n) frames
  | .string s => give (.string s) frames
  | .openList => openFrame (.list #[]) (.value true) frames
  | .openObject => openFrame (.object #[] none) (.key true) frames
  | .closeList => if orClose then close frames else stop frames
  | _ => stop frames

def key (frames : List Frame) (orClose : Bool) (t : Token) : Reader :=
  match t, frames with
  | .string k, .object members _ :: outer => .inside (.object members (some k) :: outer) .colon
  | .closeObject, _ => if orClose then close frames else stop frames
  | _, _ => stop frames

def more (frames : List Frame) (t : Token) : Reader :=
  match t, frames with
  | .comma, .list _ :: _ => .inside frames (.value false)
  | .closeList, .list _ :: _ => close frames
  | .comma, .object _ _ :: _ => .inside frames (.key false)
  | .closeObject, .object _ _ :: _ => close frames
  | _, _ => stop frames

def step (r : Reader) (t : Token) : Reader :=
  match r with
  | .inside frames (.value orClose) => value frames orClose t
  | .inside frames (.key orClose) => key frames orClose t
  | .inside frames .colon =>
    match t with
    | .colon => .inside frames (.value false)
    | _ => stop frames
  | .inside frames .more => more frames t
  | .done r => .done { r with complete := false }

def finish : Reader → Reading
  | .inside frames _ => ⟨unwind none frames, false⟩
  | .done r => r

def ofTokens (tokens : List Token) : Reading :=
  (tokens.foldl step (.inside [] (.value false))).finish

end Reader

/-- The longest text at the start of a byte sequence, and whether it is all of it. -/
def decodeFrom (bytes : ByteArray) (i : Nat) (text : Array Char) : List Char × Bool :=
  if i < bytes.size then
    match bytes.utf8DecodeChar? i with
    | some c => decodeFrom bytes (i + c.utf8Size) (text.push c)
    | none => (text.toList, false)
  else (text.toList, true)
termination_by bytes.size - i
decreasing_by have := c.utf8Size_pos; omega

namespace Reading

def ofString (s : String) : Reading :=
  Reader.ofTokens (Token.scan s.toList true)

def ofBytes (bytes : ByteArray) : Reading :=
  let (text, whole) := decodeFrom bytes 0 #[]
  Reader.ofTokens (Token.scan text whole)

end Reading
end TypeBridge.Json
