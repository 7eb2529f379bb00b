import ScriptBench.Digest.Md5
import ScriptBench.Files.Disk
import ScriptBench.Script.Driver
import ScriptBench.Text.Utf8

/-! The driver program as a file. Its name tells its content, so a file of that name is not written again. -/
namespace ScriptBench.DriverFile

def bytes : List UInt8 := Text.encodeUtf8 Script.driver

def digest : String := Digest.hexText (Digest.md5 bytes)

def name : String := s!"driver-{digest}.py"

/-- The name under which a process writes the file before it moves it to its place. -/
def temporaryName (process : Nat) : String := s!".driver-{digest}.{process}.tmp"

/-- Puts the driver program into a directory, unless a file with its name is there, and gives its path. -/
def install (directory : Path) (process : Nat) (d : Disk) : Except OsError Path × Disk :=
  let target := directory.join name
  if d.exists? target then (.ok target, d)
  else
    let temporary := directory.join (temporaryName process)
    match d.makeDirectories directory with
    | (.error e, d) => (.error e, d)
    | (.ok _, d) =>
      match d.write temporary bytes with
      | (.error e, d) => (.error e, d)
      | (.ok _, d) =>
        match d.rename temporary target with
        | (.error e, d) => (.error e, d)
        | (.ok _, d) => (.ok target, d)

end ScriptBench.DriverFile
