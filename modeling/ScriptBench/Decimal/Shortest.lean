import ScriptBench.Decimal.Double

/-! The shortest decimal that reads back as a given double, and its text. -/
namespace ScriptBench.Decimal

structure Digits where
  digits : Nat
  exponent : Int
  deriving DecidableEq, Repr

/-- The reals that round to a double, as fractions with one denominator. -/
structure Interval where
  low : Nat
  value : Nat
  high : Nat
  denominator : Nat
  /-- Whether the ends belong to it. -/
  closed : Bool
  deriving Repr

/-- The reals that round to a finite double. Below a power of two the gap is half as wide. -/
def Double.interval (x : Double) : Interval :=
  let m := x.significand
  let narrow := x.fractionField = 0 ∧ 1 < x.exponentField
  let unit := Nat.pow 2 (x.scale - 2).toNat
  { low := (4 * m - if narrow then 1 else 2) * unit
    value := 4 * m * unit
    high := (4 * m + 2) * unit
    denominator := Nat.pow 2 (2 - x.scale).toNat
    closed := m % 2 = 0 }

/-- The point of the grid `10 ^ exponent` that lies in an interval and is nearest to its value. -/
def Interval.onGrid? (i : Interval) (exponent : Int) : Option Nat :=
  let stretch := Nat.pow 10 (-exponent).toNat
  let step := i.denominator * Nat.pow 10 exponent.toNat
  let below := i.value * stretch / step
  let inside (n : Nat) : Bool :=
    if i.closed then i.low * stretch ≤ n * step && n * step ≤ i.high * stretch
    else i.low * stretch < n * step && n * step < i.high * stretch
  let excess := 2 * (i.value * stretch - below * step)
  match inside below && below != 0, inside (below + 1) with
  | true, true =>
    some (if excess < step ∨ (excess = step ∧ below % 2 = 0) then below else below + 1)
  | true, false => some below
  | false, true => some (below + 1)
  | false, false => none

/-- Tries the grids from `10 ^ exponent` downwards and takes the first with a point in the interval. -/
def Interval.coarsest (i : Interval) : Nat → Int → Digits
  | 0, exponent => ⟨i.value, exponent⟩
  | tries + 1, exponent =>
    match i.onGrid? exponent with
    | some n => ⟨n, exponent⟩
    | none => i.coarsest tries (exponent - 1)

/-- The decimal with the fewest digits that reads back as a positive finite double. -/
def Double.shortest (x : Double) : Digits := x.interval.coarsest 640 309

def digitsOf (n : Nat) : List Char := Nat.toDigits 10 n

def exponentText (e : Int) : List Char :=
  (if e < 0 then '-' else '+') :: digitsOf e.natAbs

/-- A decimal is positional from `10 ^ -5` up to below `10 ^ 16` and always shows a point there. -/
def Digits.text (d : Digits) : List Char :=
  let ds := digitsOf d.digits
  let point : Int := ds.length + d.exponent
  if 0 ≤ d.exponent ∧ point ≤ 16 then
    ds ++ List.replicate d.exponent.toNat '0' ++ ['.', '0']
  else if 0 < point ∧ point ≤ 16 then
    ds.take point.toNat ++ '.' :: ds.drop point.toNat
  else if -5 < point ∧ point ≤ 0 then
    ['0', '.'] ++ List.replicate (-point).toNat '0' ++ ds
  else
    ds.take 1 ++ (if ds.length = 1 then [] else '.' :: ds.drop 1) ++ 'e' :: exponentText (point - 1)

/-- The text of a finite double: the shortest decimal that reads back. -/
def Double.text (x : Double) : List Char :=
  (if x.negative then ['-'] else []) ++
    (if x.significand = 0 then ['0', '.', '0'] else x.shortest.text)

end ScriptBench.Decimal
