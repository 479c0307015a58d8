import TicketTrail.CommandLine.Help

/-!
# Running the program

A run reads the command line, then the settings, and then carries out the command. Settings that are
refused stop every command, also one that would not look at them.
-/

namespace TicketTrail

/-- What a run sees of the world. -/
structure Environment where
  files : Files
  now : Instant
  /-- The directory of the settings file, if there is one. -/
  settingsDir : Option String := none
  /-- The snapshot file that the environment names. -/
  snapshotVariable : Option String := none

/-- Why a command fails. -/
inductive CommandError where
  | settings (cause : SettingsError)
  | search (cause : SearchError)
  | check (cause : CheckError)
deriving Repr, DecidableEq

/-- The error as it is told. -/
def CommandError.message : CommandError → String
  | settings cause => cause.message
  | search cause => cause.message
  | check cause => cause.message

/-- How a run ends: its code, and what it printed. -/
structure Exit where
  code : Nat
  transcript : Transcript
deriving Repr, DecidableEq

namespace Environment

/-- The path of the settings file. -/
def settingsPath? (env : Environment) : Option String :=
  env.settingsDir.map (· ++ "/config.toml")

/-- The settings; without a settings file nothing is set. -/
def settings (env : Environment) : Except SettingsError Settings :=
  match env.settingsPath? with
  | some path => Settings.load env.files path
  | none => .ok {}

end Environment

namespace Invocation

/-- The snapshot file to search, which the settings name when nothing else does. -/
def snapshotFile (invocation : Invocation) (settings : Settings) : Option String :=
  invocation.snapshot <|> settings.snapshot

/-- The files that the command reads. -/
def paths (invocation : Invocation) (settings : Settings) : List String :=
  match invocation.request with
  | .search request => request.template.toList ++ (invocation.snapshotFile settings).toList
  | .check _ => []

/-- Carries out the command. -/
def runRequest (env : Environment) (console : Console) (settings : Settings)
    (invocation : Invocation) : Step CommandError Unit :=
  match invocation.request with
  | .search request =>
    (request.run console env.files env.now settings (invocation.snapshotFile settings)).mapError
      .search
  | .check request => (request.run console).mapError .check

/-- Reads the settings and carries out the command. -/
def run (env : Environment) (invocation : Invocation) : Step CommandError Unit := do
  let settings ← .silent (env.settings.mapError .settings)
  let console := {
    format := invocation.format.getD settings.defaultFormat
    verbose := invocation.verbose }
  .print (console.progress (programName ++ " starting"))
  .print (console.remarks "config" (env.settingsDir.toList.map ("Config directory: " ++ ·)))
  invocation.runRequest env console settings
  .print (console.progress "Command completed successfully")

end Invocation

namespace Exit

/-- The end of a run that was stopped by its command line. -/
def ofStop (stop : Stop) : Exit :=
  ⟨stop.code, stop.transcript⟩

/-- The end of a command. -/
def ofStep (step : Step CommandError Unit) : Exit :=
  match step.result with
  | .ok _ => ⟨0, step.printed⟩
  | .error e => ⟨1, step.printed ++ .ofNotices ["Error: " ++ e.message]⟩

end Exit

/-- Runs the program with the given arguments. -/
def runProgram (env : Environment) (args : List String) : Exit :=
  match Invocation.parse env.snapshotVariable args with
  | .error stop => .ofStop stop
  | .ok invocation => .ofStep (invocation.run env)

end TicketTrail
