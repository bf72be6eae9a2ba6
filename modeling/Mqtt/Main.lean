import Mqtt.Cli.Command
/-! # The `umqtt` command

`umqtt pub|sub [flags]` run from a shell. The arguments and the `UMQTT_*` environment variables
are passed on as they are; the configuration file and the TLS files it names are read before
the run. No broker answers here, so a run that gets as far as connecting reports that the
connection failed. The messages a subscriber receives go to standard output, the log and the
error lines to standard error, and the exit code is the run's.
-/

namespace Mqtt

/-- Reads the file at a path into a store; a directory is recorded as one, and a path that
cannot be read is left out. -/
def readInto (fs : FileStore) (path : String) : IO FileStore := do
  if fs.files.any (·.1 == path) || fs.dirs.contains path then return fs
  try
    let text ← IO.FS.readFile path
    return { fs with files := fs.files ++ [(path, text)] }
  catch e =>
    if (toString e).contains "directory" then return { fs with dirs := fs.dirs ++ [path] }
    return fs

/-- Reads every file a run needs: the configuration first, then the files it names. -/
def gatherFiles (inv : Invocation) : Nat → IO Invocation
  | 0 => return inv
  | fuel + 1 => do
    let fs ← inv.neededFiles.foldlM readInto inv.files
    if fs.files.length == inv.files.files.length && fs.dirs.length == inv.files.dirs.length then
      return { inv with files := fs }
    gatherFiles { inv with files := fs } fuel

end Mqtt

open Mqtt in
/-- Runs the command with the process's arguments and environment. -/
def main (args : List String) : IO UInt32 := do
  let env ← Config.environmentNames.filterMapM fun name => do
    return (← IO.getEnv name).map (name, ·)
  let inv ← gatherFiles { args, env } 3
  let o := inv.run
  let out ← IO.getStdout
  out.write (ByteArray.mk o.stdout.toArray)
  out.flush
  let err ← IO.getStderr
  for line in o.errorStream do
    err.putStrLn line
  return o.exit.toUInt32
