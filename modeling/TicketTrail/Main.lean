import TicketTrail.CommandLine.Run

/-!
# The program

Reads the arguments, the environment, the clock and the files that a run asks for, hands them to
`runProgram` and prints what it answers.
-/

namespace TicketTrail

/-- Why the system could not give a file. Error numbers come with either sign. -/
def faultOfError : IO.Error → FileFault
  | .noFileOrDirectory _ _ _ => .missing
  | .inappropriateType _ code _ =>
    if min code (0 - code) = 20 then .notDirectory else .isDirectory
  | .invalidArgument _ code details =>
    if min code (0 - code) = 36 then .nameTooLong else .other details
  | e => .other (toString e)

/-- Reads the file at a path. -/
def readText (path : String) : IO (Except FileFault String) := do
  try
    if path.toList.contains '\x00' then return .error .nulInName
    match String.fromUTF8? (← IO.FS.readBinFile path) with
    | some text => return .ok text
    | none => return .error .notText
  catch e => return .error (faultOfError e)

/-- The files at the given paths. -/
def readAll (paths : List String) : IO Files := do
  let found ← paths.mapM fun path => do return (path, ← readText path)
  return { read := fun path => (found.lookup path).getD (.error .missing) }

/-- The present time, as the file system stamps a new file with it. -/
def presentTime : IO Instant := do
  let (_, path) ← IO.FS.createTempFile
  let time := (← path.metadata).modified
  IO.FS.removeFile path
  return (Instant.ofParts? time.sec time.nsec.toNat).getD .earliest

/-- The directory of the settings file. -/
def settingsDirectory : IO (Option String) := do
  match ← IO.getEnv "XDG_CONFIG_HOME", ← IO.getEnv "HOME" with
  | some dir, home =>
    if dir.startsWith "/" then return some (dir ++ "/" ++ programName)
    else return home.map (· ++ "/.config/" ++ programName)
  | none, home => return home.map (· ++ "/.config/" ++ programName)

/-- Runs the program in the world. -/
def runInWorld (args : List String) : IO Exit := do
  let snapshotVariable ← IO.getEnv "TQ_SNAPSHOT"
  let settingsDir ← settingsDirectory
  let now ← presentTime
  let bare : Environment :=
    { files := ⟨fun _ => .error .missing⟩, now, settingsDir, snapshotVariable }
  let first := { bare with files := ← readAll bare.settingsPath?.toList }
  let paths := match Invocation.parse snapshotVariable args, first.settings with
    | .ok invocation, .ok settings => invocation.paths settings
    | _, _ => []
  return runProgram
    { first with files := ← readAll (first.settingsPath?.toList ++ paths) } args

end TicketTrail

/-- The program. -/
def main (args : List String) : IO UInt32 := do
  let exit ← TicketTrail.runInWorld args
  (← IO.getStdout).putStr exit.transcript.resultText
  (← IO.getStderr).putStr exit.transcript.noticeText
  return UInt32.ofNat exit.code
