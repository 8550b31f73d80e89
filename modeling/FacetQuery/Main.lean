import FacetQuery.Cli.Run

/-!
The program itself: it looks at the files that a run can depend on, computes the run, prints what
it says, and writes the file that it has changed.
-/
namespace FacetQuery

/-- What is at a path outside. -/
def probe (path : Path) : IO (Option Entry) := do
  try
    return some (.file (← IO.FS.readBinFile path.text))
  catch
    | .inappropriateType .. => return some .directory
    | _ => return none

/-- Adds what is at a path to a tree, with the directories on the way. -/
def observe (disk : Disk) (path : Path) : IO Disk := do
  match ← probe path, path.parent? with
  | some (.file bytes), some parent =>
    let made := disk.makeDirectories parent
    return (made.write path bytes).toOption.getD made
  | some .directory, _ => return disk.makeDirectories path
  | _, _ => return disk

/-- The files that a run may read or write. -/
def candidates (home directory : Path) : List Path :=
  directory.ancestors.map (fun p => p.child configFileName) ++ [globalPath home]

/-- The part of the outside that a run may see. -/
def snapshot (home directory : Path) : IO Disk :=
  (home :: candidates home directory).foldlM observe
    ((Disk.empty.seenFrom directory).makeDirectories directory)

/-- Only a run without queries among its arguments reads its input. -/
def readsInput (args : List String) : Bool :=
  match Request.ofArguments args with
  | .run _ (.parse [] _ _) => true
  | _ => false

/-- Writes a file that a run has changed. -/
def commit (before after : Disk) (path : Path) : IO Unit := do
  match (before.stat path).toOption, (after.stat path).toOption with
  | old, some (.file bytes) =>
    if old ≠ some (.file bytes) then IO.FS.writeBinFile path.text bytes
  | _, _ => return ()

end FacetQuery

open FacetQuery in
def main (args : List String) : IO UInt32 := do
  let directory : Path := ⟨(← IO.currentDir).toString⟩
  let home : Path := ⟨(← IO.getEnv "HOME").getD "/"⟩
  let disk ← snapshot home directory
  let stdin ← IO.getStdin
  let stdout ← IO.getStdout
  let input ← if readsInput args then stdin.readBinToEnd else pure ByteArray.empty
  let outcome := World.run
    ⟨args, disk, home, input, ← stdout.isTty, ← IO.getEnv "SIFT_LOG", .plain⟩
  (candidates home directory).forM (commit disk outcome.disk)
  IO.print outcome.stdout
  IO.eprint outcome.stderr
  return outcome.exitCode.toUInt32
