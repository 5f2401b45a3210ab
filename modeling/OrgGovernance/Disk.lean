import OrgGovernance.JsonForm
import OrgGovernance.Toml.Document

/-!
# The files of a node

A disk is what stands at each path that is in use. A path is cut at its slashes
and followed part by part from the working directory or the root: empty parts and
single dots stay, double dots go up, and only directories can be gone through. A
path that ends in a slash or in dots can only name a directory. A file can be
written where its directory exists and no directory stands.

The state of a node is kept as indented JSON in one file; a missing file counts
as the state of a node that has never run. Settings are read from a TOML file,
and from no file, or one that cannot be used, come the standard settings. The
limits stand in the section `governance` and the state file in the section
`node`. A section may also be an array of its fields in order, in which case what
follows the fields is not looked at, or a date, which has none of them. Keys that
mean nothing are passed over as long as their values can be used, and what is
absent keeps its standard value.
-/

namespace OrgGovernance

/-- What stands at a path. -/
inductive DiskEntry
  /-- A file with its text. -/
  | file (text : String)
  /-- A directory. -/
  | directory
  deriving DecidableEq, Repr

/-- What stands at each path that is in use, under the path's standard form. -/
structure Disk where
  /-- The files and directories under their paths. -/
  entries : OrderedMap String DiskEntry
  /-- Whether nothing can be written. -/
  readOnly : Bool
  deriving DecidableEq

namespace Disk

/-- The longest name of a file, in bytes. -/
def longestName : Nat := 255

/-- The longest path, in bytes. -/
def longestPath : Nat := 4095

/-- Text cut at every slash. -/
def pieces : List Char → List (List Char)
  | [] => [[]]
  | '/' :: rest => [] :: pieces rest
  | c :: rest =>
    match pieces rest with
    | [] => [[c]]
    | first :: more => (c :: first) :: more

/-- The part of a path that goes up. -/
def upward : List Char := ['.', '.']

/-- Whether a part of a path stays where it is. -/
def isIdle (piece : List Char) : Bool := piece = [] || piece = ['.']

/-- Names joined by slashes. -/
def joined (names : List (List Char)) : String := String.ofList (['/'].intercalate names)

/-- Where a path leads. -/
structure Place where
  /-- Whether the path begins at the root of the file system. -/
  rooted : Bool
  /-- How many directories above the working directory the names begin. -/
  above : Nat
  /-- The names on the way. -/
  names : List (List Char)
  /-- Whether the path can only name a directory. -/
  directoryOnly : Bool
  deriving DecidableEq, Repr

namespace Place

/-- The standard form of the path. -/
def standard (p : Place) : String :=
  joined ((if p.rooted then [[]] else List.replicate p.above upward) ++ p.names)

/-- The directory around; the root is around itself. -/
def parent (p : Place) : Place :=
  if p.names = [] ∧ !p.rooted then { p with above := p.above + 1 }
  else { p with names := p.names.dropLast }

/-- Whether the last name can be that of a file. -/
def isNameable (p : Place) : Bool :=
  p.names.getLast?.any fun name => (String.ofList name).utf8ByteSize ≤ longestName

end Place

/-- The directories at the root of every system. -/
def rootDirectories : List String :=
  ["/bin", "/boot", "/dev", "/etc", "/home", "/lib", "/media", "/mnt", "/opt", "/proc", "/root",
    "/run", "/sbin", "/srv", "/sys", "/tmp", "/usr", "/var"]

/-- What stands at a path of every system: its directories, and the file that is always empty. -/
def standing? (path : String) : Option DiskEntry :=
  if rootDirectories.contains path then some .directory
  else if path = "/dev/null" then some (.file "")
  else none

/-- The disk that holds the given entries and nothing else. -/
def ofList (entries : List (String × DiskEntry)) : Disk := ⟨.ofList entries, false⟩

/-- What stands at a place. The working directory, those above it and the root
are directories. -/
def lookup (d : Disk) (p : Place) : Option DiskEntry :=
  if p.names = [] then some .directory
  else
    match (d.entries.find? p.standard).or (standing? p.standard) with
    | some .directory => some .directory
    | some (.file text) => if p.directoryOnly then none else some (.file text)
    | none => none

/-- Where one more part of a path leads; it goes up from directories alone. -/
def step? (d : Disk) (p : Place) (piece : List Char) : Option Place :=
  if isIdle piece then some p
  else if piece = upward then
    if d.lookup p = some .directory then some p.parent else none
  else some { p with names := p.names ++ [piece] }

/-- Where a path leads. The empty path, one that is too long and one with a null
character lead nowhere. -/
def place? (d : Disk) (path : String) : Option Place :=
  let chars := path.toList
  if chars = [] ∨ chars.contains '\x00' ∨ path.utf8ByteSize > longestPath then none
  else do
    let parts := pieces chars
    let p ← parts.foldlM d.step? ⟨chars.head? = some '/', 0, [], false⟩
    return { p with directoryOnly := parts.getLast?.any isIdle }

/-- What stands at a path. -/
def read? (d : Disk) (path : String) : Option DiskEntry := (d.place? path).bind d.lookup

/-- The disk with an entry at a place. -/
def put (d : Disk) (p : Place) (entry : DiskEntry) : Disk :=
  { d with entries := d.entries.insert p.standard entry }

/-- The disk after a text is written to the file at a path. -/
def write? (d : Disk) (path text : String) : Option Disk := do
  let p ← d.place? path
  if d.readOnly || p.directoryOnly || !p.isNameable || d.lookup p = some .directory
      || d.lookup p.parent ≠ some .directory then none
  else return d.put p (.file text)

end Disk

namespace Settings

open Toml

/-- The values of the named fields of a section. -/
def fields? (names : List String) : Value → Option Entries
  | .table _ entries => if areUsableEntries entries then some entries else none
  | .array elements => some (names.zip elements)
  | .moment => some []
  | _ => none

/-- The number under a key, or the given one when the key is absent. -/
def number? (entries : Entries) (key : String) (absent : Word 64) : Option (Word 64) :=
  match entries.lookup key with
  | none => some absent
  | some (.integer value) => if 0 ≤ value then Word.ofNat? 64 value.toNat else none
  | some _ => none

/-- The limits of their section. -/
def limits? (section? : Option Value) : Option Limits :=
  match section? with
  | none => some Limits.standard
  | some value => do
    let entries ← fields? ["max_executors", "max_voters"] value
    let maxExecutors ← number? entries "max_executors" Limits.standard.maxExecutors
    let maxVoters ← number? entries "max_voters" Limits.standard.maxVoters
    return { maxExecutors, maxVoters }

/-- The state file of its section. -/
def stateFile? (section? : Option Value) : Option String :=
  match section? with
  | none => some standard.stateFile
  | some value => do
    let entries ← fields? ["state_file"] value
    match entries.lookup "state_file" with
    | none => return standard.stateFile
    | some (.text path) => return path
    | some _ => none

/-- The settings of a document. -/
def parse? (text : String) : Option Settings := do
  let document ← Toml.parse? text
  let others := document.filter fun e => e.1 ≠ "governance" ∧ e.1 ≠ "node"
  if !areUsableEntries others then none
  let limits ← limits? (document.lookup "governance")
  let stateFile ← stateFile? (document.lookup "node")
  return { limits, stateFile }

end Settings

/-- Why a state cannot be loaded or saved. -/
inductive StateFault
  /-- What stands at the path cannot be read. -/
  | unreadable (path : String)
  /-- The file does not hold a state. -/
  | malformed (path : String)
  /-- No file can be written at the path. -/
  | unwritable (path : String)
  deriving DecidableEq, Repr

/-- The wording of a fault. -/
def StateFault.message : StateFault → String
  | .unreadable path => s!"failed to read state from {path}"
  | .malformed path => s!"failed to parse state in {path}"
  | .unwritable path => s!"failed to write state to {path}"

namespace NodeState

/-- The state kept at a path. -/
def load (d : Disk) (path : String) : Except StateFault NodeState :=
  match d.read? path with
  | none => .ok fresh
  | some .directory => .error (.unreadable path)
  | some (.file text) =>
    match JsonForm.read? text with
    | some state => .ok state
    | none => .error (.malformed path)

/-- The disk on which a state is kept at a path. -/
def save (s : NodeState) (d : Disk) (path : String) : Except StateFault Disk :=
  match d.write? path (JsonForm.writePretty s) with
  | some after => .ok after
  | none => .error (.unwritable path)

end NodeState

/-- The settings of the file at a path, if a path is given. -/
def Settings.load (d : Disk) (path? : Option String) : Settings :=
  match path?.bind d.read? with
  | some (.file text) => (parse? text).getD standard
  | _ => standard

end OrgGovernance
