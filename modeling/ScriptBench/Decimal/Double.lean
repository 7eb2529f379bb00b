/-! Double-precision numbers and how they are put together from decimal parts. -/
namespace ScriptBench.Decimal

structure Double where
  bits : UInt64
  deriving DecidableEq, Repr

namespace Double

def ofFloat (x : Float) : Double := ⟨x.toBits⟩

def powerOfTen (n : Nat) : Float := Float.ofScientific 1 false n

/-- Divides by `10 ^ n` in steps of at most `10 ^ 308` and rounds after each. -/
def divideByPower (x : Float) (n : Nat) : Float :=
  if n ≤ 308 then x / powerOfTen n
  else if x == 0 then x
  else divideByPower (x / powerOfTen 308) (n - 308)
termination_by n

/-- The double for a significand of 64 bits and a power of ten: one rounding for the significand and
one for each step of scaling. There is none if a scaled value is infinite. -/
def ofParts? (negative : Bool) (significand : Nat) (exponent : Int) : Option Double :=
  let x := significand.toUInt64.toFloat
  let signed (y : Float) : Double := ofFloat (if negative then -y else y)
  match exponent with
  | .ofNat n =>
    if n ≤ 308 then
      let y := x * powerOfTen n
      if y.isInf then none else some (signed y)
    else if significand = 0 then some (signed x)
    else none
  | .negSucc n => some (signed (divideByPower x (n + 1)))

def negative (x : Double) : Bool := x.bits >>> 63 == 1

def exponentField (x : Double) : Nat := ((x.bits >>> 52) &&& 0x7FF).toNat

def fractionField (x : Double) : Nat := (x.bits &&& 0xFFFFFFFFFFFFF).toNat

def significand (x : Double) : Nat :=
  if x.exponentField = 0 then x.fractionField else 4503599627370496 + x.fractionField

def scale (x : Double) : Int :=
  if x.exponentField = 0 then -1074 else (x.exponentField : Int) - 1075

end Double

end ScriptBench.Decimal
