import TicketTrail.CommandLine.Invocation

/-!
# Help and version

The texts that are printed when help or the version is asked for, and when a command line is
refused.
-/

namespace TicketTrail

/-- The name of the program. -/
def programName : String := "tq"

/-- The version of the program. -/
def programVersion : String := "0.1.0"

/-- What is printed when the version is asked for. -/
def versionLine (c : Option Command) : String :=
  programName ++ (c.elim "" fun c => "-" ++ c.name) ++ " " ++ programVersion

namespace HelpTopic

/-- Two columns, the first of them as wide as its widest entry. -/
def columns (rows : List (String × String)) : List String :=
  let width := (rows.map fun row => row.1.length).foldl max 0
  rows.map fun (left, right) => "  " ++ left.pushn ' ' (width - left.length) ++ "  " ++ right

/-- A flag as help shows it. -/
def flagForm (flag : Flag) : String :=
  let short := match flag.short? with
    | some c => String.ofList ['-', c, ',', ' ']
    | none => "    "
  short ++ "--" ++ flag.long ++ flag.valueName?.elim "" fun name => " <" ++ name ++ ">"

/-- The part of help that is about flags. -/
def flagLines (flags : List Flag) : List String :=
  "Options:" :: columns (flags.map fun flag => (flagForm flag, flag.summary))

/-- The part of help that is about commands. -/
def commandLines : List String :=
  "Commands:" :: columns (Command.all.map (fun c => (c.name, c.summary)) ++
    [("help", "Print this message or the help of the given subcommand(s)")])

/-- The part of help that is about operands. -/
def operandLines (c : Command) : List String :=
  if c.operands.isEmpty then []
  else "Arguments:" ::
    columns (c.operands.map fun o => ("<" ++ o.name ++ ">", o.summary)) ++ [""]

/-- How a command is written. -/
def usage (c : Command) : String :=
  String.join (["Usage: ", programName, " ", c.name, " [OPTIONS]"] ++
    c.operands.map fun o => " <" ++ o.name ++ ">")

/-- The lines of help. -/
def lines : HelpTopic → List String
  | program =>
    ["Filter tracker tickets by how they moved", "",
      "Usage: " ++ programName ++ " [OPTIONS] <COMMAND>", ""] ++
      commandLines ++ [""] ++ flagLines Flag.global
  | command c => [c.summary, "", usage c, ""] ++ operandLines c ++ flagLines (Flag.ofCommand c)
  | help =>
    ["Print this message or the help of the given subcommand(s)", "",
      "Usage: " ++ programName ++ " help [COMMAND]..."]

end HelpTopic

namespace Stop

/-- The code the program ends with. -/
def code : Stop → Nat
  | help _ | version _ => 0
  | usage _ => 2

/-- What the program prints. -/
def transcript : Stop → Transcript
  | help topic => .ofResults topic.lines
  | version c => .ofResults [versionLine c]
  | usage e => .ofNotices ["error: " ++ e.message, "", "For more information, try '--help'."]

end Stop

end TicketTrail
