import Settings.Tool.Run

/-!
# The command line tool

Runs the tool on the files of the system.
-/
namespace Settings.Tool

/-- Why the system could not read or write a file. -/
def fileFault (e : IO.Error) : FileFault :=
  match e with
  | .noFileOrDirectory .. => .missing
  | .inappropriateType _ code _ => if code = 20 then .notDirectory else .directory
  | e => .other (toString e)

def readFile (path : String) : IO (Except FileFault String) := do
  try
    let bytes ← IO.FS.readBinFile path
    match String.fromUTF8? bytes with
    | some text => return .ok text
    | none => return .error .notText
  catch e => return .error (fileFault e)

/-- Writes a file beside the old one and moves it over that, so a reader never sees half of it. -/
def writeFile (path text : String) : IO (Option FileFault) := do
  let fresh := path ++ ".new"
  try
    IO.FS.writeFile fresh text
    IO.FS.rename fresh path
    return none
  catch e =>
    try IO.FS.removeFile fresh catch _ => pure ()
    return some (fileFault e)

/-- The files of the system. -/
def systemDisk : Disk IO := ⟨readFile, writeFile⟩

/-- The message of a failure and what caused it. -/
def Failure.report (failure : Failure) : String :=
  match failure with
  | .cannotOpen cause =>
    "Error: " ++ failure.message ++ "\n\nCaused by:\n    " ++ cause.message ++ "\n"
  | _ => "Error: " ++ failure.message ++ "\n"

end Settings.Tool

open Settings.Tool in
def main (words : List String) : IO UInt32 := do
  let outcome ← run systemDisk words
  (← IO.getStdout).putStr outcome.output
  match outcome with
  | .printed _ => pure ()
  | .failed failure => (← IO.getStderr).putStr failure.report
  | .misused => (← IO.getStderr).putStr helpText
  return outcome.exitCode.toUInt32
