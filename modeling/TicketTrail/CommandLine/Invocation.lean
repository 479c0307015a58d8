import TicketTrail.Check
import TicketTrail.CommandLine.Arguments
import TicketTrail.Search.Run
import TicketTrail.Settings.Format

/-!
# Invocations

What a command line asks for. Flags are looked at in order, so of two faults the first one is
reported, and help or the version is printed unless something before it is at fault. The one value
that waits is a value right before the word for the command. A flag is given once before the command
and once after it at most; the one after the command counts.
-/

namespace TicketTrail

/-- What help is about. -/
inductive HelpTopic where
  | program
  | command (c : Command)
  | help
deriving Repr, DecidableEq

/-- Why a command line asks for no command to be run. -/
inductive Stop where
  | help (topic : HelpTopic)
  | version (c : Option Command)
  | usage (e : UsageError)
deriving Repr, DecidableEq

/-- A command with all it needs. -/
inductive Request where
  | search (request : SearchRequest)
  | check (request : CheckRequest)
deriving Repr, DecidableEq

/-- What a command line asks for. -/
structure Invocation where
  format : Option OutputFormat := none
  verbose : Bool := false
  /-- The snapshot file, named by a flag or by the environment. -/
  snapshot : Option String := none
  request : Request
deriving Repr, DecidableEq

/-- A number of days: digits, after a sign if need be. -/
def days? (s : String) : Option UInt32 :=
  let (negative, digits) :=
    match s.toList with
    | '-' :: rest => (true, rest)
    | '+' :: rest => (false, rest)
    | rest => (false, rest)
  if digits.isEmpty || !digits.all Char.isDigit then none
  else
    let n := digits.foldl (fun n c => n * 10 + (c.toNat - '0'.toNat)) 0
    if (negative && n != 0) || UInt32.size ≤ n then none else some (UInt32.ofNat n)

/-- The value is one that the flag can have. -/
def Flag.accepts (flag : Flag) (value : String) : Bool :=
  match flag with
  | .format => (OutputFormat.ofName? value).isSome
  | .snapshot | .template => value != ""
  | .createdAfter | .updatedAfter => (days? value).isSome
  | _ => true

/-- The text is one that the operand can be. -/
def Operand.accepts (operand : Operand) (text : String) : Bool :=
  match operand with
  | .axis => (Axis.parse? text).isSome
  | .pattern => true

/-- The flags and operands that were given in one place. -/
structure Given where
  flags : List Flag := []
  values : List (Flag × String) := []
  operands : List String := []
deriving Repr, DecidableEq

namespace Given

/-- The value of a flag. -/
def value? (g : Given) (flag : Flag) : Option String :=
  g.values.lookup flag

/-- Takes up one more piece of the arguments of a command, or of those before it. -/
def accept (c : Option Command) (g : Given) : Argument → Except Stop Given
  | .flag .help => .error (.help ((c.map HelpTopic.command).getD .program))
  | .flag .version => .error (.version c)
  | .flag flag =>
    if g.flags.contains flag then .error (.usage (.repeated flag))
    else .ok { g with flags := flag :: g.flags }
  | .setting flag value | .settingApart flag value =>
    if g.flags.contains flag then .error (.usage (.repeated flag))
    else if !flag.accepts value then .error (.usage (.badValue flag value))
    else .ok { g with flags := flag :: g.flags, values := (flag, value) :: g.values }
  | .operand text =>
    match ((c.map Command.operands).getD [])[g.operands.length]? with
    | none => .error (.usage (.unknownArgument text))
    | some operand =>
      if operand.accepts text then .ok { g with operands := g.operands ++ [text] }
      else .error (.usage (.badOperand operand text))

/-- Takes up all pieces. -/
def ofPieces (c : Option Command) (pieces : List Argument) : Except Stop Given :=
  pieces.foldlM (accept c) {}

/-- The criteria that were given. -/
def criteria (g : Given) : Criteria where
  column := g.value? .column
  priority := g.value? .priority
  status := g.value? .status
  tag := g.value? .tag
  query := g.value? .query
  createdAfter := (g.value? .createdAfter).bind days?
  updatedAfter := (g.value? .updatedAfter).bind days?
  showHistory := g.flags.contains .showHistory
  showMetadata := g.flags.contains .showMetadata

end Given

namespace Invocation

/-- What is known before the command. -/
def outerContext : Arguments.Context where
  flags := Flag.global
  commands := "help" :: Command.all.map Command.name
  operands := 0

/-- What is known after a command. -/
def innerContext (c : Command) : Arguments.Context where
  flags := Flag.ofCommand c
  commands := []
  operands := c.operands.length

/-- What the words after the word `help` ask for. -/
def helpTopic : List String → Stop
  | [] => .help .program
  | ["help"] => .help .help
  | word :: rest =>
    match Command.ofName? word, rest with
    | some c, [] => .help (.command c)
    | some _, next :: _ => .usage (.unknownCommand next)
    | none, _ => .usage (.unknownCommand word)

/-- The snapshot file. The environment names it unless a flag does; a name must not be empty, also
when it does not count. -/
def snapshotPath (fromEnv : Option String) (outer inner : Given) :
    Except Stop (Option String) :=
  match outer.value? .snapshot, inner.value? .snapshot with
  | some _, some path => .ok (some path)
  | before, after =>
    if fromEnv == some "" then .error (.usage (.badValue .snapshot ""))
    else .ok (after <|> before <|> fromEnv)

/-- The command with what was given to it. -/
def requestOf (c : Command) (g : Given) : Except Stop Request :=
  match c with
  | .search => .ok (.search { criteria := g.criteria, template := g.value? .template })
  | .check =>
    match g.operands with
    | [] => .error (.usage (.missingOperand .axis))
    | [_] => .error (.usage (.missingOperand .pattern))
    | axis :: pattern :: _ =>
      match Axis.parse? axis with
      | some axis => .ok (.check { axis, pattern })
      | none => .error (.usage (.badOperand .axis axis))

/-- Reads the arguments after a command. -/
def readCommand (c : Command) (args : List String) : Except Stop Given := do
  let arguments := Arguments.read (innerContext c) none args
  let given ← Given.ofPieces (some c) arguments.pieces
  match arguments.ending with
  | .done => return given
  | .fault e => throw (.usage e)
  | .command word _ => throw (.usage (.unknownArgument word))

/-- The invocation of a command, from what was given before it and after it. -/
def assemble (fromEnv : Option String) (c : Command) (outer inner : Given) :
    Except Stop Invocation := do
  let snapshot ← snapshotPath fromEnv outer inner
  let request ← requestOf c inner
  return {
    format := (inner.value? .format <|> outer.value? .format).bind OutputFormat.ofName?
    verbose := inner.flags.contains .verbose || outer.flags.contains .verbose
    snapshot, request }

/-- Reads a command line. The environment may name a snapshot file. -/
def parse (fromEnv : Option String) (args : List String) : Except Stop Invocation := do
  let arguments := Arguments.read outerContext none args
  let early ← Given.ofPieces none arguments.prompt
  match arguments.ending with
  | .fault e => throw (.usage e)
  | .done => throw (.usage .missingCommand)
  | .command word rest =>
    match Command.ofName? word with
    | none => throw (helpTopic rest)
    | some c =>
      let inner ← readCommand c rest
      let outer ← arguments.late.foldlM (Given.accept none) early
      assemble fromEnv c outer inner

end Invocation

end TicketTrail
