/-! # Shortest decimals

The shortest decimal that reads back as a given floating-point number, and its layout. A number
`m * 2 ^ q` is read back from every decimal between its two neighbours' midpoints; of the grids
`10 ^ e` the coarsest with a point in that interval gives the fewest digits. -/

namespace TypeBridge

structure Decimal where
  digits : Nat
  exponent : Int
deriving DecidableEq

/-- A positive number `m * 2 ^ q` with its interval, which reaches half a unit up and, where the
unit shrinks below it, only a quarter of a unit down. -/
structure Rounded where
  m : Nat
  q : Int
  narrowBelow : Bool

namespace Rounded

/-- `x` quarters of the last unit, on the scale on which a step of the grid `10 ^ e` is
`gridStep e`. -/
def quarters (r : Rounded) (e : Int) (x : Nat) : Nat :=
  x * Nat.pow 2 (r.q - 2).toNat * Nat.pow 10 (-e).toNat

def gridStep (r : Rounded) (e : Int) : Nat :=
  Nat.pow 2 (2 - r.q).toNat * Nat.pow 10 e.toNat

/-- Whether `d * 10 ^ e` reads back as the number. The ends count when `m` is even. -/
def contains (r : Rounded) (e : Int) (d : Nat) : Bool :=
  let low := r.quarters e (4 * r.m - if r.narrowBelow then 1 else 2)
  let high := r.quarters e (4 * r.m + 2)
  let x := d * r.gridStep e
  if r.m % 2 = 0 then low ≤ x && x ≤ high else low < x && x < high

/-- The point of the grid `10 ^ e` that is nearest to the number, if it reads back. -/
def onGrid? (r : Rounded) (e : Int) : Option Decimal :=
  let value := r.quarters e (4 * r.m)
  let step := r.gridStep e
  let d := value / step
  let below := value - d * step
  let above := (d + 1) * step - value
  let upFirst := above < below || above = below && d % 2 = 1
  let candidates := if upFirst then [d + 1, d] else [d, d + 1]
  (candidates.find? (r.contains e)).map (⟨·, e⟩)

/-- The grids from the coarsest that a finite number can need to the finest. -/
def grids : List Int :=
  (List.range 634).map fun i : Nat => (309 : Int) - i

def shortest (r : Rounded) : Decimal :=
  (grids.findSome? r.onGrid?).getD ⟨0, 0⟩

end Rounded

/-- Positional notation up to 16 places before the point and 4 zeros after it, scientific beyond,
where the exponent always has a sign; there is always a point or an exponent. -/
def Decimal.text (d : Decimal) : String :=
  let digits := Nat.toDigits 10 d.digits
  let point := digits.length + d.exponent
  let zeros (n : Int) : List Char := List.replicate n.toNat '0'
  String.ofList <|
    if 0 ≤ d.exponent && point ≤ 16 then digits ++ zeros d.exponent ++ ['.', '0']
    else if 0 < point && point ≤ 16 then
      digits.take point.toNat ++ '.' :: digits.drop point.toNat
    else if -5 < point && point ≤ 0 then '0' :: '.' :: zeros (-point) ++ digits
    else
      let fraction := digits.drop 1
      digits.take 1 ++ (if fraction.isEmpty then [] else '.' :: fraction) ++
        'e' :: (if 0 < point then ['+'] else []) ++ (toString (point - 1)).toList

/-- The fraction of a floating-point number has 52 bits; 11 bits of exponent and a sign follow. -/
def fractionLimit : Nat := Nat.pow 2 52

def floatText (x : Float) : String :=
  let bits := x.toBits.toNat
  let fraction := bits % fractionLimit
  let exponent := bits / fractionLimit % 2048
  let sign := if bits / (2048 * fractionLimit) = 0 then "" else "-"
  let m := if exponent = 0 then fraction else fractionLimit + fraction
  sign ++
    if m = 0 then "0.0"
    else
      (Rounded.shortest ⟨m, (max exponent 1 : Nat) - 1075, fraction = 0 && 1 < exponent⟩).text

end TypeBridge
