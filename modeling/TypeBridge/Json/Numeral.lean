import TypeBridge.Json.Value

/-! # JSON numbers

A number is read digit by digit. Its leading digits are kept as long as they fit a machine word;
later ones only move the power of ten. An integer that fits stays exact, all else becomes a
floating-point number: the kept digits and the power of ten are each rounded, then combined. -/

namespace TypeBridge.Json

/-- The part of a number that was read last. -/
inductive NumeralPart
  | sign
  /-- A zero in front, which no digit may follow. -/
  | zero
  /-- A digit after a zero in front. -/
  | excess
  | whole
  | point
  | fraction
  | mark
  | markSign
  | power
deriving DecidableEq

structure Numeral where
  part : NumeralPart
  isNegative : Bool := false
  /-- The digits kept. -/
  significand : Nat := 0
  /-- The next digit does not fit, and no later one is taken. -/
  isFull : Bool := false
  /-- The power of ten by which the kept digits are to be multiplied. -/
  exponent : Int := 0
  isReal : Bool := false
  powerIsNegative : Bool := false
  power : Nat := 0

namespace Numeral

def wordLimit : Nat := Nat.pow 2 64

def ofChar? (c : Char) : Option Numeral :=
  if c = '-' then some { part := .sign, isNegative := true }
  else if c = '0' then some { part := .zero }
  else if c.isDigit then some { part := .whole, significand := c.toNat - 48 }
  else none

def takeDigit (n : Numeral) (part : NumeralPart) (c : Char) : Numeral :=
  let next := 10 * n.significand + (c.toNat - 48)
  let inFraction := part = .fraction
  if !n.isFull && next < wordLimit then
    { n with part, significand := next, exponent := n.exponent - if inFraction then 1 else 0 }
  else
    { n with part, isFull := true, isReal := true,
             exponent := n.exponent + if inFraction then 0 else 1 }

def takePoint (n : Numeral) : Numeral :=
  { n with part := .point, isFull := false, isReal := true }

def takeMark (n : Numeral) : Numeral :=
  { n with part := .mark, isReal := true }

def takePower (n : Numeral) (c : Char) : Numeral :=
  { n with part := .power, power := 10 * n.power + (c.toNat - 48) }

/-- The number with one more character, unless it ends before that character. -/
def push? (n : Numeral) (c : Char) : Option Numeral :=
  let isMark := c = 'e' || c = 'E'
  match n.part with
  | .excess => none
  | .sign =>
    if c = '0' then some { n with part := .zero }
    else if c.isDigit then some (n.takeDigit .whole c)
    else none
  | .zero =>
    if c = '.' then some n.takePoint else if isMark then some n.takeMark
    else if c.isDigit then some { n with part := .excess }
    else none
  | .whole =>
    if c.isDigit then some (n.takeDigit .whole c)
    else if c = '.' then some n.takePoint else if isMark then some n.takeMark
    else none
  | .point => if c.isDigit then some (n.takeDigit .fraction c) else none
  | .fraction =>
    if c.isDigit then some (n.takeDigit .fraction c)
    else if isMark then some n.takeMark else none
  | .mark =>
    if c.isDigit then some (n.takePower c)
    else if c = '+' || c = '-' then some { n with part := .markSign, powerIsNegative := c = '-' }
    else none
  | .markSign | .power => if c.isDigit then some (n.takePower c) else none

/-- The largest power of ten that has a floating-point number. -/
def maxPower : Nat := 308

def tenTo (n : Nat) : Float := Float.ofScientific 1 false n

/-- `x * 10 ^ e`, or nothing when that is too large. Far below one the division goes in steps. -/
def scale? (x : Float) (e : Int) : Option Float :=
  if 0 ≤ e then
    if e ≤ maxPower then
      let y := x * tenTo e.toNat
      if y.isInf then none else some y
    else if x == 0 then some x
    else none
  else if -maxPower ≤ e then some (x / tenTo (-e).toNat)
  else if x == 0 then some x
  else scale? (x / tenTo maxPower) (e + maxPower)
termination_by (-e).toNat
decreasing_by simp only [maxPower] at *; omega

/-- The value of a number that ends here, if it may end here and is not too large. -/
def value? (n : Numeral) : Option Number :=
  match n.part with
  | .zero | .whole | .fraction | .power =>
    let size := n.significand.toUInt64.toFloat
    if n.isReal then
      let e := n.exponent + if n.powerIsNegative then -(n.power : Int) else n.power
      (scale? size e).map fun x => .real (if n.isNegative then -x else x)
    else if n.isNegative then
      if n.significand = 0 || wordLimit / 2 < n.significand then some (.real (-size))
      else some (.integer (-n.significand))
    else some (.integer n.significand)
  | _ => none

end Numeral
end TypeBridge.Json
