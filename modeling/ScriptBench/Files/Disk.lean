import ScriptBench.Files.Path

/-! Files and directories. What changes them may fail half-way: a disk carries the mishaps that await the next
changes. -/
namespace ScriptBench

inductive Entry where
  | file (bytes : List UInt8)
  /-- A file that can be started. -/
  | program
  | directory
  /-- A directory in which nothing can be made. -/
  | sealed
  deriving DecidableEq, Repr

def Entry.isDirectory : Entry → Bool
  | .directory => true
  | .sealed => true
  | _ => false

inductive Mishap where
  /-- Nothing is changed. -/
  | refused (e : OsError)
  /-- A write stops behind so many bytes. Another change is refused. -/
  | cutShort (count : Nat) (e : OsError)
  deriving DecidableEq, Repr

def Mishap.error : Mishap → OsError
  | .refused e => e
  | .cutShort _ e => e

/-- Entries are filed under their depth and their location, so that locations of different depth are told
apart at once. -/
structure Disk where
  entries : List ((Nat × Location) × Entry)
  /-- One for each of the next changes. Behind them all goes well. -/
  mishaps : List (Option Mishap)
  deriving DecidableEq, Repr

namespace Disk

def empty : Disk := ⟨[], []⟩

def key (p : Location) : Nat × Location := (p.length, p)

/-- What stands at a location, without a look at the directories above it. The root is a directory. -/
def find? (d : Disk) (p : Location) : Option Entry :=
  if p = [] then some .directory else d.entries.lookup (key p)

def setEntry (d : Disk) (p : Location) (e : Entry) : Disk :=
  { d with entries := (key p, e) :: d.entries.filter (·.1 != key p) }

def removeEntry (d : Disk) (p : Location) : Disk := { d with entries := d.entries.filter (·.1 != key p) }

theorem key_inj {p q : Location} : key p = key q ↔ p = q :=
  ⟨fun h => (Prod.mk.inj h).2, fun h => h ▸ rfl⟩

/-- A filter that drops one key does not hide what is filed under another. -/
theorem lookup_filter_of_ne {α β : Type} [BEq α] [LawfulBEq α] {a b : α} (h : a ≠ b)
    (entries : List (α × β)) : (entries.filter (·.1 != b)).lookup a = entries.lookup a := by
  induction entries with
  | nil => rfl
  | cons e more ih =>
    obtain ⟨k, v⟩ := e
    by_cases hk : k = b
    · simp [hk, ih, List.lookup_cons, beq_eq_false_iff_ne.2 h]
    · simp [hk, ih, List.lookup_cons]

theorem find?_setEntry_self (d : Disk) {p : Location} (hp : p ≠ []) (e : Entry) :
    (d.setEntry p e).find? p = some e := by
  simp [find?, setEntry, hp]

theorem find?_setEntry_of_ne (d : Disk) {p q : Location} (h : q ≠ p) (e : Entry) :
    (d.setEntry p e).find? q = d.find? q := by
  have hk : key q ≠ key p := fun hk => h (key_inj.1 hk)
  simp only [find?, setEntry, List.lookup_cons, beq_eq_false_iff_ne.2 hk, lookup_filter_of_ne hk]

theorem find?_removeEntry_of_ne (d : Disk) {p q : Location} (h : q ≠ p) :
    (d.removeEntry p).find? q = d.find? q := by
  simp only [find?, removeEntry, lookup_filter_of_ne fun hk => h (key_inj.1 hk)]

/-- Puts an entry at a location whatever stands there, with the directories above it. -/
def plant (d : Disk) (p : Location) (e : Entry) : Disk :=
  let above (d : Disk) (n : Nat) : Disk :=
    if (d.find? (p.take n)).isSome then d else d.setEntry (p.take n) .directory
  ((List.range p.length).foldl above d).setEntry p e

def isDirectory (d : Disk) (p : Location) : Bool := (d.find? p).any Entry.isDirectory

/-! Following paths -/

/-- Goes on from a location by one part of a path. Even a part that leads nowhere else has to stand behind a
directory. -/
def step (d : Disk) (here : Location) (part : String) : Except OsError Location :=
  if !d.isDirectory here then .error .notDirectory
  else
    let next := Path.follow here part
    if Path.isBlank part || part = ".." then .ok next
    else if !Path.fits part then .error .nameTooLong
    else if (d.find? next).isSome then .ok next
    else .error .notFound

def walk (d : Disk) (here : Location) (parts : List String) : Except OsError Location :=
  parts.foldlM d.step here

/-- The location to which a path leads. Something stands there. -/
def locate (d : Disk) (p : Path) : Except OsError Location :=
  match p.refusal? with
  | some e => .error e
  | none => d.walk p.origin p.parts

/-- The location to which a path leads whose last part is a name. Nothing has to stand there, but in a
directory. -/
def site (d : Disk) (p : Path) : Except OsError Location := do
  match p.refusal? with
  | some e => .error e
  | none =>
    let here ← d.walk p.origin p.parts.dropLast
    let name := p.parts.getLast?.getD ""
    if !d.isDirectory here then .error .notDirectory
    else if Path.isBlank name || name = ".." then .error .isDirectory
    else if Path.fits name then return here ++ [name]
    else .error .nameTooLong

def look (d : Disk) (p : Path) : Except OsError Entry := do
  match d.find? (← d.locate p) with
  | some e => return e
  | none => .error .notFound

def exists? (d : Disk) (p : Path) : Bool := (d.look p).isOk

def read (d : Disk) (p : Path) : Except OsError (List UInt8) := do
  match ← d.look p with
  | .file bytes => return bytes
  | .program => return []
  | _ => .error .isDirectory

def names (d : Disk) (p : Location) : List String :=
  d.entries.filterMap fun ((depth, q), _) =>
    if depth = p.length + 1 ∧ q.dropLast = p then q.getLast? else none

/-! Changes -/

/-- The mishap of the next change, if any, and the disk behind it. -/
def nextMishap (d : Disk) : Option Mishap × Disk :=
  match d.mishaps with
  | [] => (none, d)
  | m :: more => (m, { d with mishaps := more })

def makeDirectory (d : Disk) (here : Location) (name : String) : Except OsError Unit × Disk :=
  let (mishap, d) := d.nextMishap
  match mishap, d.find? here with
  | some m, _ => (.error m.error, d)
  | none, some .sealed => (.error .notFound, d)
  | none, _ => (.ok (), d.setEntry (here ++ [name]) .directory)

/-- Why the directories on the way of a path cannot be made when a file stands there, with the given parts
behind it. A path through the file is refused as such, unless it could be followed only when directories were
already made, for then the file is met where the next one should be. -/
def fileInTheWay (made : Bool) (more : List String) : OsError :=
  if more.all (· == "") || made && !more.all Path.isBlank then .exists else .notDirectory

/-- Whether the directory in front of the given parts is never made. A path is made up to its last name, and
a dot behind that name needs what is not there yet. -/
def neverMade (more : List String) : Bool := more.all Path.isBlank && more.contains "."

/-- Goes on from a location and makes every directory that is not there. -/
def makeOnward (d : Disk) (here : Location) (made : Bool) : List String → Except OsError Unit × Disk
  | [] => (.ok (), d)
  | part :: more =>
    let next := Path.follow here part
    if Path.isBlank part || part = ".." then d.makeOnward next made more
    else if !Path.fits part then (.error .nameTooLong, d)
    else match d.find? next with
      | some e =>
        if e.isDirectory then d.makeOnward next made more else (.error (fileInTheWay made more), d)
      | none =>
        if neverMade more then (.error .notFound, d)
        else match d.makeDirectory here part with
          | (.ok _, d) => d.makeOnward next true more
          | (.error e, d) => (.error e, d)

/-- Makes every directory on the way of a path that is not there. The empty path is no failure. -/
def makeDirectories (d : Disk) (p : Path) : Except OsError Unit × Disk :=
  if p.text.isEmpty then (.ok (), d)
  else match p.refusal? with
    | some e => (.error e, d)
    | none => d.makeOnward p.origin false p.parts

def writable (d : Disk) (p : Path) : Except OsError Location := do
  let location ← d.site p
  match d.find? location with
  | some e => if e.isDirectory then .error .isDirectory else return location
  | none => if d.find? location.dropLast = some .sealed then .error .notFound else return location

/-- Writes a file. One that is already there is replaced. A write that is cut short leaves a part. -/
def write (d : Disk) (p : Path) (bytes : List UInt8) : Except OsError Unit × Disk :=
  let (mishap, d) := d.nextMishap
  match d.writable p, mishap with
  | .error e, _ => (.error e, d)
  | .ok location, none => (.ok (), d.setEntry location (.file bytes))
  | .ok _, some (.refused e) => (.error e, d)
  | .ok location, some (.cutShort count e) => (.error e, d.setEntry location (.file (bytes.take count)))

/-- Gives a file another path. A file that stands there is replaced, a directory is not. -/
def rename (d : Disk) (source target : Path) : Except OsError Unit × Disk :=
  let (mishap, d) := d.nextMishap
  match mishap, d.locate source, d.look source, d.writable target with
  | some m, _, _, _ => (.error m.error, d)
  | none, .ok old, .ok e, .ok new => (.ok (), (d.removeEntry old).setEntry new e)
  | none, .error e, _, _ => (.error e, d)
  | none, _, .error e, _ => (.error e, d)
  | none, _, _, .error e => (.error e, d)

end Disk

end ScriptBench
