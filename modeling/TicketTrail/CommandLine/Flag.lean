import TicketTrail.Axis

/-!
# Flags

The flags of the program and of its commands, and how each of them is written. Some flags stand
before the command as well as after it.
-/

namespace TicketTrail

/-- The commands of the program. -/
inductive Command where
  | search
  | check
deriving Repr, DecidableEq

/-- A flag. -/
inductive Flag where
  | format
  | verbose
  | snapshot
  | column
  | priority
  | status
  | tag
  | query
  | createdAfter
  | updatedAfter
  | showHistory
  | showMetadata
  | template
  | help
  | version
deriving Repr, DecidableEq

/-- What stands in the place of a value of an argument that is no flag. -/
inductive Operand where
  | axis
  | pattern
deriving Repr, DecidableEq

namespace Command

/-- The word for the command. -/
def name : Command → String
  | search => "search"
  | check => "check"

/-- What the command does. -/
def summary : Command → String
  | search => "Search tickets by column, priority, status and project patterns"
  | check => "Validate a pattern and print its normalized form"

/-- Every command, in the order in which help lists them. -/
def all : List Command := [search, check]

/-- The command that a word stands for. -/
def ofName? (word : String) : Option Command :=
  all.find? (·.name == word)

/-- The operands that the command must be given, in order. -/
def operands : Command → List Operand
  | search => []
  | check => [.axis, .pattern]

end Command

namespace Operand

/-- The operand as help shows it. -/
def name : Operand → String
  | axis => "AXIS"
  | pattern => "PATTERN"

/-- What the operand is. -/
def summary : Operand → String
  | axis => "Axis the pattern is written for (column, priority, status, project)"
  | pattern => "Pattern to check"

end Operand

namespace Flag

/-- The long form of the flag. -/
def long : Flag → String
  | format => "format"
  | verbose => "verbose"
  | snapshot => "snapshot"
  | column => "column"
  | priority => "priority"
  | status => "status"
  | tag => "tag"
  | query => "query"
  | createdAfter => "created-after"
  | updatedAfter => "updated-after"
  | showHistory => "show-history"
  | showMetadata => "show-metadata"
  | template => "template"
  | help => "help"
  | version => "version"

/-- The short form of the flag, if it has one. -/
def short? : Flag → Option Char
  | format => some 'f'
  | verbose => some 'v'
  | query => some 'q'
  | help => some 'h'
  | version => some 'V'
  | _ => none

/-- The name of the flag's value in help, for a flag that takes one. -/
def valueName? : Flag → Option String
  | format => some "FORMAT"
  | snapshot => some "SNAPSHOT"
  | column => some "COLUMN"
  | priority => some "PRIORITY"
  | status => some "STATUS"
  | tag => some "TAG"
  | query => some "QUERY"
  | createdAfter | updatedAfter => some "DAYS"
  | template => some "FILE"
  | verbose | showHistory | showMetadata | help | version => none

/-- The flag takes a value. -/
def takesValue (flag : Flag) : Bool :=
  flag.valueName?.isSome

/-- What the flag does. -/
def summary : Flag → String
  | format => "Output format (defaults to the configured format) [possible values: text, json]"
  | verbose => "Enable verbose output for debugging"
  | snapshot => "Tracker snapshot to search [env: TQ_SNAPSHOT=]"
  | column => "Column pattern, e.g. \"from:Doing:backward,in:Done\""
  | priority => "Priority pattern, e.g. \"raised+not:in:Low\""
  | status => "Status pattern, e.g. \"to:Resolved\""
  | tag => "Project pattern, e.g. \"Team*+Backend\"; \"*\" disables project filtering"
  | query => "Case-insensitive text the title must contain"
  | createdAfter => "Only tickets created within this many days"
  | updatedAfter => "Only tickets updated within this many days"
  | showHistory => "Include the recorded changes of each ticket"
  | showMetadata => "Include which boards and patterns matched"
  | template => "YAML file of saved searches to run in sequence"
  | help => "Print help"
  | version => "Print version"

/-- The flags that may stand before the command. -/
def global : List Flag := [format, verbose, snapshot, help, version]

/-- The flags that may stand after a command. -/
def ofCommand : Command → List Flag
  | .search =>
    [column, priority, status, tag, query, createdAfter, updatedAfter, showHistory, showMetadata,
      template] ++ global
  | .check => global

end Flag

end TicketTrail
