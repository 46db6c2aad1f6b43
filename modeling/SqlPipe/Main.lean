import SqlPipe.CommandLine

/-!
# The program

Reads the environment and the files that a run needs, makes the run, and writes what it has to say
to standard error.
-/

namespace SqlPipe

def readEnvironment : IO Environment := do
  let entries ← Config.variableNames.mapM fun name => do
    return (← IO.getEnv name).map (name, ·)
  return entries.filterMap id

def addFile (directory : Directory) (path : String) : IO Directory := do
  try
    let bytes ← IO.FS.readBinFile path
    return (path, bytes.toList) :: directory
  catch _ => return directory

/-- The file `.env` and the script, as far as there are such files. -/
def readFiles (environment : Environment) : IO Directory := do
  let directory ← addFile [] ".env"
  match Exit.scriptPath? directory environment with
  | some path => addFile directory path
  | none => return directory

end SqlPipe

def main : IO UInt32 := do
  let environment ← SqlPipe.readEnvironment
  let directory ← SqlPipe.readFiles environment
  let exit := SqlPipe.Exit.ofRun directory environment
  IO.eprint exit.message
  return exit.code.toUInt32
