import OrgGovernance.Console

/-!
# The program

Reads the files that a run needs, lets the run decide, and writes and prints
what it decided.
-/

namespace OrgGovernance.Main

/-- What stands at a path of the file system, if anything does. -/
def standing (path : String) : IO (Option DiskEntry) := do
  try
    let text ← IO.FS.readFile path
    return some (.file text)
  catch
    | .noFileOrDirectory .. => return none
    | _ => return some .directory

/-- The disk with what stands on the way to a path, from its first parts on. -/
def explore (disk : Disk) (front : List (List Char)) : List (List Char) → IO Disk
  | [] => return disk
  | piece :: rest => do
    let path := Disk.joined (front ++ [piece])
    match disk.place? path with
    | none => explore disk (front ++ [piece]) rest
    | some place =>
      if place.names = [] then explore disk (front ++ [piece]) rest
      else
        match ← standing path with
        | none => return disk
        | some entry =>
          let disk := disk.put place entry
          if entry = .directory then explore disk (front ++ [piece]) rest else return disk

/-- The part of the file system that a run looks at, and the path of its state. -/
def diskFor (arguments : List String) : IO (Disk × Option String) := do
  match CommandLine.read arguments with
  | .error _ => return (.ofList [], none)
  | .ok invocation =>
    let disk ←
      match invocation.config with
      | none => pure (Disk.ofList [])
      | some path => explore (.ofList []) [] (Disk.pieces path.toList)
    let path := Console.statePath (Settings.load disk invocation.config) invocation
    return (← explore disk [] (Disk.pieces path.toList), some path)

/-- Writes the state file when a run has changed it, and tells whether that worked. -/
def keep (path? : Option String) (before after : Disk) : IO Bool := do
  match path? with
  | none => return true
  | some path =>
    match after.read? path with
    | some (.file text) =>
      if before = after then return true
      else
        try
          IO.FS.writeFile path text
          return true
        catch _ => return false
    | _ => return true

/-- Prints a report and answers its exit code. -/
def tell (report : Report) : IO UInt32 := do
  IO.print report.output
  match report.complaint with
  | some complaint => IO.eprintln s!"Error: {complaint.message}"
  | none => pure ()
  return UInt32.ofNat report.code

/-- Runs the program; when the state cannot be written after all, the run is
decided once more on a disk that takes nothing. -/
def run (arguments : List String) : IO UInt32 := do
  let (disk, path?) ← diskFor arguments
  let (report, after) := Console.run disk arguments
  if ← keep path? disk after then tell report
  else tell (Console.run { disk with readOnly := true } arguments).1

end OrgGovernance.Main

/-- The entry of the program. -/
def main (arguments : List String) : IO UInt32 := OrgGovernance.Main.run arguments
