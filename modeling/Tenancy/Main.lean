import Tenancy.Command
import Tenancy.Server.Unreachable

/-!
# The program

The outer layer: it fetches the environment and the files that a command looks at, carries the command
out, writes back the files that were changed, and prints. There is no network in it, so commands that
connect to a server find none.
-/

namespace Tenancy

/-- The entry at a path. What is there but cannot be read as a text counts as a directory. -/
def fetchEntry (path : String) : IO (Option Entry) := do
  try return some (.file (← IO.FS.readFile path))
  catch
    | .noFileOrDirectory .. => return none
    | _ => return some .directory

/-- The files with the entry at a path fetched. -/
def fetch (fs : Files) (path : String) : IO Files := do
  match ← fetchEntry path with
  | some (.file text) => return ((fs.write path text).toOption).getD fs
  | some .directory => return fs.put (fs.place path) .directory
  | none => return fs

/-- Writes a file back if its text has changed. -/
def writeBack (before after : Files) (path : String) : IO Unit := do
  match after.content path with
  | .ok text =>
    if (before.content path).toOption ≠ some text then
      let directory := "/".intercalate (path.splitOn "/").dropLast
      if directory ≠ "" then IO.FS.createDirAll directory
      IO.FS.writeFile path text
  | .error _ => return ()

/-- The values of the variables that are looked at. -/
def fetchEnvironment : IO Environment := do
  let found ← environmentVariables.mapM fun name => return (name, ← IO.getEnv name)
  return fun name => (found.lookup name).join

/-- Carries a line of arguments out. -/
def serve (arguments : List String) : IO Leaving := do
  let env ← fetchEnvironment
  let paths := Invocation.paths arguments env
  let configured ← (paths {}).foldlM fetch {}
  let files ← (paths configured).foldlM fetch configured
  let (left, world) := (callProgram arguments env).run { server := UnreachableServer.mk, files }
  (paths configured).forM (writeBack files world.files)
  return left

end Tenancy

/-- The program. -/
def main (arguments : List String) : IO UInt32 := do
  let left ← Tenancy.serve arguments
  (← IO.getStdout).putStr left.output
  (← IO.getStderr).putStr left.complaint
  return UInt32.ofNat left.code
