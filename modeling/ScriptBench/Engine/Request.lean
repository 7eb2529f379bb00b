import ScriptBench.Json.Printer

/-! What the host writes to an interpreter: one JSON object a line. -/
namespace ScriptBench

/-- A call to run code, with library code that may be imported under a name. -/
structure Request where
  id : Nat
  code : String
  library? : Option String
  module : String
  deriving DecidableEq, Repr

namespace Request

def toJson (r : Request) : Json.Value :=
  .object
    [("op", .string "exec"),
     ("id", .nat r.id),
     ("code", .string r.code),
     ("library", .text? r.library?),
     ("module", .string r.module)]

def line (r : Request) : String := r.toJson.line

def shutdownLine : String := "\x7b\"op\":\"shutdown\"\x7d"

end Request

end ScriptBench
