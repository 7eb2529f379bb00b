import ScriptBench.Decimal.Shortest

/-! Instants of UTC in the calendar, to the nanosecond. -/
namespace ScriptBench.Time

open Decimal (digitsOf)

def isLeapYear (year : Int) : Bool :=
  year % 4 == 0 && (year % 100 != 0 || year % 400 == 0)

def daysInMonth (year : Int) (month : Nat) : Nat :=
  match month with
  | 2 => if isLeapYear year then 29 else 28
  | 4 | 6 | 9 | 11 => 30
  | _ => 31

structure Day where
  year : Int
  month : Nat
  day : Nat
  deriving DecidableEq, Repr

def Day.IsValid (d : Day) : Prop :=
  -262143 ≤ d.year ∧ d.year ≤ 262142 ∧ 1 ≤ d.month ∧ d.month ≤ 12 ∧ 1 ≤ d.day
    ∧ d.day ≤ daysInMonth d.year d.month

instance (d : Day) : Decidable d.IsValid := inferInstanceAs (Decidable (_ ∧ _))

def Day.next (d : Day) : Day :=
  if d.day < daysInMonth d.year d.month then { d with day := d.day + 1 }
  else if d.month < 12 then ⟨d.year, d.month + 1, 1⟩
  else ⟨d.year + 1, 1, 1⟩

def Day.previous (d : Day) : Day :=
  if 1 < d.day then { d with day := d.day - 1 }
  else if 1 < d.month then ⟨d.year, d.month - 1, daysInMonth d.year (d.month - 1)⟩
  else ⟨d.year - 1, 12, 31⟩

structure Instant where
  date : Day
  /-- Minutes since midnight. -/
  minutes : Nat
  second : Nat
  nanosecond : Nat
  deriving DecidableEq, Repr

namespace Instant

def IsValid (t : Instant) : Prop :=
  t.date.IsValid ∧ t.minutes < 1440 ∧ t.second ≤ 60 ∧ t.nanosecond < 1000000000

instance (t : Instant) : Decidable t.IsValid := inferInstanceAs (Decidable (_ ∧ _))

/-- Moves a clock that shows so many minutes ahead of UTC back to UTC. The offset is below a day. -/
def fromOffset (t : Instant) (ahead : Int) : Instant :=
  let minutes := (t.minutes : Int) - ahead
  if minutes < 0 then { t with date := t.date.previous, minutes := (minutes + 1440).toNat }
  else if 1440 ≤ minutes then { t with date := t.date.next, minutes := (minutes - 1440).toNat }
  else { t with minutes := minutes.toNat }

def padded (width n : Nat) : List Char :=
  let ds := digitsOf n
  List.replicate (width - ds.length) '0' ++ ds

def yearText (year : Int) : List Char :=
  if 0 ≤ year ∧ year ≤ 9999 then padded 4 year.toNat
  else (if year < 0 then '-' else '+') :: padded 4 year.natAbs

/-- A fraction of a second in no digits, or in three, six or nine, as few as hold it. -/
def fractionText (nanosecond : Nat) : List Char :=
  if nanosecond = 0 then []
  else if nanosecond % 1000000 = 0 then '.' :: padded 3 (nanosecond / 1000000)
  else if nanosecond % 1000 = 0 then '.' :: padded 6 (nanosecond / 1000)
  else '.' :: padded 9 nanosecond

def text (t : Instant) : String :=
  String.ofList
    (yearText t.date.year ++ '-' :: padded 2 t.date.month ++ '-' :: padded 2 t.date.day
      ++ 'T' :: padded 2 (t.minutes / 60) ++ ':' :: padded 2 (t.minutes % 60)
      ++ ':' :: padded 2 t.second ++ fractionText t.nanosecond ++ ['Z'])

end Instant

end ScriptBench.Time
