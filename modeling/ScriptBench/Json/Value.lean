import ScriptBench.Decimal.Double

/-! JSON values. The members of an object keep their order and may repeat. -/
namespace ScriptBench.Json

open Decimal (Double)

/-- A number: an integer of at most 64 bits, or a double. -/
inductive Number where
  | int (n : Int)
  | float (x : Double)
  deriving DecidableEq, Repr

inductive Value where
  | null
  | bool (b : Bool)
  | number (n : Number)
  | string (s : String)
  | array (items : List Value)
  | object (members : List (String × Value))
  deriving Repr

def lookup? (name : String) (members : List (String × Value)) : Option Value :=
  (members.reverse.find? (·.1 == name)).map (·.2)

def Value.member? (name : String) : Value → Option Value
  | .object members => lookup? name members
  | _ => none

end ScriptBench.Json
