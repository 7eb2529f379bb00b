import ScriptBench.Files.OsError
import ScriptBench.Text.Lines

/-! Paths as they are written, and the locations on a disk to which they lead. -/
namespace ScriptBench

/-- Where something stands on a disk: the names on the way down from the root. -/
abbrev Location := List String

/-- The text of a path that goes on from another one by a name. -/
def joinPath (directory name : String) : String :=
  match directory.toList.getLast? with
  | none | some '/' => directory ++ name
  | some _ => directory ++ "/" ++ name

/-- A path as it is written, and the location that it is seen from unless it starts at the root. -/
structure Path where
  start : Location
  text : String
  deriving DecidableEq, Repr

namespace Path

def parts (p : Path) : List String := (Text.cut '/' p.text.toList).map String.ofList

def origin (p : Path) : Location := if p.text.toList.head? = some '/' then [] else p.start

def join (p : Path) (name : String) : Path := { p with text := joinPath p.text name }

def isBlank (part : String) : Bool := part == "" || part == "."

/-- The location to which a part of a path leads. Two dots go up. -/
def follow (here : Location) (part : String) : Location :=
  if isBlank part then here
  else if part = ".." then here.dropLast
  else here ++ [part]

def fits (name : String) : Bool := name.utf8ByteSize ≤ 255

def byteLimit : Nat := 4096

/-- Why a path cannot be followed, whatever stands on the disk. -/
def refusal? (p : Path) : Option OsError :=
  if p.text.toList.contains '\x00' then some .nulInPath
  else if p.text.isEmpty then some .notFound
  else if p.text.utf8ByteSize < byteLimit then none
  else some .nameTooLong

end Path

end ScriptBench
