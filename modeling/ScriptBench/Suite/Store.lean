import ScriptBench.Files.Disk
import ScriptBench.Suite.Test
import ScriptBench.Text.Utf8

/-! Where the tests of each owner are kept: in memory, or in one file for each owner. -/
namespace ScriptBench

inductive StoreError where
  | refused (e : OsError)
  | notRead (path : String) (e : OsError)
  | notText (path : String)
  | notParsed (path : String) (e : Json.ReadError)
  | notWritten (path : String) (e : OsError)
  deriving DecidableEq, Repr

namespace StoreError

def chain : StoreError → List String
  | .refused e => [e.message]
  | .notRead path e => [s!"reading {path}", e.message]
  | .notText path => [s!"reading {path}", "stream did not contain valid UTF-8"]
  | .notParsed path e => [s!"parsing {path}", e.message]
  | .notWritten path e => [s!"writing {path}", e.message]

def message (e : StoreError) : String := ": ".intercalate e.chain

end StoreError

/-- A way to keep tests in a state of some kind. An owner who never saved has no tests. -/
structure Store (σ : Type) where
  load : (owner : String) → σ → Except StoreError (List Test)
  save : (owner : String) → List Test → σ → Except StoreError Unit × σ

/-! In memory -/

abbrev Shelves := Dictionary (List Test)

def Store.memory : Store Shelves where
  load owner shelves := .ok ((shelves.get? owner).getD [])
  save owner tests shelves := (.ok (), shelves.insert owner tests)

/-! In files -/

/-- A character of an owner as it stands in the name of a file. All but letters and digits of ASCII, hyphens
and underscores become underscores. -/
def plainChar (c : Char) : Char :=
  if c.isAlphanum || c == '-' || c == '_' then c else '_'

def plainName (owner : String) : String := owner.map plainChar

def fileName (owner : String) : String := plainName owner ++ ".json"

/-- The name of the file that is written before it takes the place of another. An empty name keeps the whole
file name in front. -/
def temporaryName (owner : String) : String :=
  if owner.isEmpty then ".json.json.tmp" else plainName owner ++ ".json.tmp"

structure Folder where
  path : Path
  deriving DecidableEq, Repr

namespace Folder

def file (f : Folder) (owner : String) : Path := f.path.join (fileName owner)

def temporary (f : Folder) (owner : String) : Path := f.path.join (temporaryName owner)

def load (f : Folder) (owner : String) (d : Disk) : Except StoreError (List Test) :=
  if d.exists? (f.file owner) then
    match d.read (f.file owner) with
    | .error e => .error (.notRead (f.file owner).text e)
    | .ok bytes =>
      match Text.decodeUtf8 bytes with
      | .error _ => .error (.notText (f.file owner).text)
      | .ok text => (readTests text).mapError (.notParsed (f.file owner).text)
  else .ok []

/-- Writes a temporary file and moves it to the place of the owner's file. -/
def save (f : Folder) (owner : String) (tests : List Test) (d : Disk) : Except StoreError Unit × Disk :=
  match d.makeDirectories f.path with
  | (.error e, d) => (.error (.refused e), d)
  | (.ok _, d) =>
    match d.write (f.temporary owner) (Text.encodeUtf8 (writeTests tests)) with
    | (.error e, d) => (.error (.refused e), d)
    | (.ok _, d) =>
      match d.rename (f.temporary owner) (f.file owner) with
      | (.error e, d) => (.error (.notWritten (f.file owner).text e), d)
      | (.ok _, d) => (.ok (), d)

end Folder

def Store.files (f : Folder) : Store Disk := ⟨f.load, f.save⟩

end ScriptBench
