import ChangeImpact.CommandLine.Run
import ChangeImpact.Store.Snapshot

/-!
# The program

Files and stores are those of the file system. A store is a file with a snapshot, and is made when it is opened first.
-/

namespace ChangeImpact.CommandLine

/-- What kept a file from being read. -/
def reason : IO.Error → String
  | .noFileOrDirectory _ _ _ => "No such file or directory (os error 2)"
  | .permissionDenied _ _ _ => "Permission denied (os error 13)"
  | .inappropriateType _ _ _ => "Is a directory (os error 21)"
  | e => toString e

def textOf (path : String) : IO (Except String String) := do
  try
    return .ok (← IO.FS.readFile path)
  catch e =>
    return .error (reason e)

def keep (path : String) (store : Store) : IO Unit := do
  let directory := "/".intercalate (path.splitOn "/").dropLast
  unless directory.isEmpty do IO.FS.createDirAll directory
  IO.FS.writeFile path (Json.write store.document)

def opened (path : String) : IO (Except String Store) := do
  try
    match ← textOf path with
    | .ok text =>
      match (Json.read text).bind Store.ofDocument? with
      | some store => return .ok store
      | none => return .error "database error: file is not a database"
    | .error _ =>
      keep path .empty
      return .ok .empty
  catch e =>
    return .error s!"database error: {reason e}"

def fileSystem : Host IO where
  fileText := textOf
  isFile path := return (← textOf path).toOption.isSome
  openStore := opened
  saveStore := keep

end ChangeImpact.CommandLine

def main (arguments : List String) : IO UInt32 := do
  let outcome ← ChangeImpact.CommandLine.execute ChangeImpact.CommandLine.fileSystem arguments
  for line in outcome.lines do IO.println line
  for line in outcome.errors do IO.eprintln line
  return .ofNat outcome.code
