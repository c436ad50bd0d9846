import TypeBridge.Json.Numeral

/-! # JSON tokens

The tokens of a text, read character by character. Where the text holds none, it ends in one `bad`
token, whatever follows. -/

namespace TypeBridge.Json

inductive Token
  | openList | closeList | openObject | closeObject
  | comma | colon
  | null
  | bool (b : Bool)
  | number (n : Number)
  | string (s : String)
  | bad

namespace Token

inductive Mode
  | between
  /-- A word of which `rest` is still to come. -/
  | word (rest : List Char) (token : Token)
  | number (n : Numeral)
  | string (s : String)
  | escape (s : String)
  /-- A code unit of which `missing` hexadecimal digits are still to come. It follows `high`, the
  first half of a surrogate pair, if there is one. -/
  | unit (s : String) (high : Option Nat) (missing : Nat) (value : Nat)
  /-- After the first half of a surrogate pair; `escaped` once the backslash has come. -/
  | pair (s : String) (high : Nat) (escaped : Bool)
  | stopped

structure Scan where
  tokens : Array Token := #[]
  mode : Mode := .between

def isBlank (c : Char) : Bool :=
  c = ' ' || c = '\n' || c = '\t' || c = '\r'

def hexValue? (c : Char) : Option Nat :=
  if c.isDigit then some (c.toNat - 48)
  else if 'a' ≤ c && c ≤ 'f' then some (c.toNat - 87)
  else if 'A' ≤ c && c ≤ 'F' then some (c.toNat - 55)
  else none

/-- The character that a backslash and `c` stand for. -/
def unescape? (c : Char) : Option Char :=
  match c with
  | '"' => some '"'
  | '\\' => some '\\'
  | '/' => some '/'
  | 'b' => some '\x08'
  | 'f' => some '\x0c'
  | 'n' => some '\n'
  | 'r' => some '\r'
  | 't' => some '\t'
  | _ => none

namespace Scan

def stop (s : Scan) : Scan := { tokens := s.tokens.push .bad, mode := .stopped }

def emit (s : Scan) (t : Token) : Scan := { tokens := s.tokens.push t }

/-- A character that starts a token or stands between tokens. -/
def start (s : Scan) (c : Char) : Scan :=
  if isBlank c then { s with mode := .between }
  else match c with
  | '[' => s.emit .openList
  | ']' => s.emit .closeList
  | '{' => s.emit .openObject
  | '}' => s.emit .closeObject
  | ',' => s.emit .comma
  | ':' => s.emit .colon
  | '"' => { s with mode := .string "" }
  | 'n' => { s with mode := .word ['u', 'l', 'l'] .null }
  | 't' => { s with mode := .word ['r', 'u', 'e'] (.bool true) }
  | 'f' => { s with mode := .word ['a', 'l', 's', 'e'] (.bool false) }
  | c => match Numeral.ofChar? c with
    | some n => { s with mode := .number n }
    | none => s.stop

/-- A code unit of a string is complete: a character, or one half of a surrogate pair. -/
def codeUnit (s : Scan) (text : String) (high : Option Nat) (value : Nat) : Scan :=
  match high with
  | some h =>
    if 0xDC00 ≤ value && value < 0xE000 then
      let c := Char.ofNat (0x10000 + (h - 0xD800) * 0x400 + (value - 0xDC00))
      { s with mode := .string (text.push c) }
    else s.stop
  | none =>
    if 0xDC00 ≤ value && value < 0xE000 then s.stop
    else if 0xD800 ≤ value && value < 0xDC00 then { s with mode := .pair text value false }
    else { s with mode := .string (text.push (Char.ofNat value)) }

def step (s : Scan) (c : Char) : Scan :=
  match s.mode with
  | .between => s.start c
  | .word rest token =>
    match rest with
    | [] => s.stop
    | [d] => if c = d then s.emit token else s.stop
    | d :: rest => if c = d then { s with mode := .word rest token } else s.stop
  | .number n =>
    match n.push? c with
    | some n => { s with mode := .number n }
    | none =>
      match n.value? with
      | some x => (s.emit (.number x)).start c
      | none => s.stop
  | .string text =>
    if c = '"' then s.emit (.string text)
    else if c = '\\' then { s with mode := .escape text }
    else if c.toNat < 0x20 then s.stop
    else { s with mode := .string (text.push c) }
  | .escape text =>
    if c = 'u' then { s with mode := .unit text none 4 0 }
    else match unescape? c with
      | some d => { s with mode := .string (text.push d) }
      | none => s.stop
  | .unit text high missing value =>
    match hexValue? c with
    | none => s.stop
    | some d =>
      let value := 16 * value + d
      if missing ≤ 1 then s.codeUnit text high value
      else { s with mode := .unit text high (missing - 1) value }
  | .pair text high escaped =>
    if escaped then if c = 'u' then { s with mode := .unit text (some high) 4 0 } else s.stop
    else if c = '\\' then { s with mode := .pair text high true }
    else s.stop
  | .stopped => s

def finish (s : Scan) : Scan :=
  match s.mode with
  | .between | .stopped => s
  | .number n =>
    match n.value? with
    | some x => s.emit (.number x)
    | none => s.stop
  | _ => s.stop

end Scan

/-- The tokens of a text. If it is not `whole`, something that is no text follows. -/
def scan (text : List Char) (whole : Bool) : List Token :=
  let s := (text.foldl Scan.step {}).finish
  (if whole then s else s.stop).tokens.toList

end Token
end TypeBridge.Json
