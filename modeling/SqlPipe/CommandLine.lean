import SqlPipe.Pipeline

/-!
# The command line

The program takes its configuration from the environment and from the file `.env` of the working
directory, makes one run, and ends with an exit code and, where the run has failed, with a message.
-/

namespace SqlPipe

structure Exit where
  code : Nat
  message : String
  /-- Files that the program has left in the working directory. -/
  left : List String
  deriving DecidableEq, Repr

namespace Exit

/-- A cause below what it has brought about.  Further lines of the cause are indented too. -/
def report (what cause : String) : String :=
  let lines := Text.replaceAll ['\n'] "\n    ".toList cause.toList
  "Error: " ++ what ++ "\n\nCaused by:\n    " ++ String.ofList lines ++ "\n"

def environmentIn (directory : Directory) (environment : Environment) : Environment :=
  match directory.lookup ".env" with
  | some bytes => environment.addFile bytes
  | none => environment

def scriptPath? (directory : Directory) (environment : Environment) : Option String :=
  match ((environmentIn directory environment).get? "BYTESET_SOURCE").map Address.parse with
  | some (.ok (.file path)) => some path
  | _ => none

def ofRun (directory : Directory) (environment : Environment) : Exit :=
  match Config.read (environmentIn directory environment) with
  | .error fault => ⟨1, report "Failed to load configuration" fault.message, []⟩
  | .ok config =>
      let run := Run.start directory config false
      match run.outcome with
      | .ok _ => ⟨0, "", run.left⟩
      | .error failure => ⟨1, report "Pipe failed" failure.message, run.left⟩

def databases (directory : Directory) (exit : Exit) : List String :=
  let names := (directory.map (·.1) ++ exit.left).filter (·.endsWith ".db")
  names.eraseDups.mergeSort (· ≤ ·)

end Exit

end SqlPipe
