import TicketTrail.CommandLine.Flag
import TicketTrail.Text.Split

/-!
# Arguments

How the arguments of a command line are taken apart, by the usual conventions: a long
flag is `--name`, with its value in the next argument or after `=`; short flags may be written
together, the last of them with its value right behind it, after `=` or in the next argument. After
`--` no argument is a flag any more, and a lone `-` never is one. A value in an argument of its own
does not look like a flag.

Taking arguments apart ends at the first one that is at fault, so what comes before a fault is
known.
-/

namespace TicketTrail

/-- Why a command line is refused. -/
inductive UsageError where
  | unknownArgument (text : String)
  | missingValue (flag : Flag)
  | needlessValue (flag : Flag)
  | repeated (flag : Flag)
  | badValue (flag : Flag) (text : String)
  | badOperand (operand : Operand) (text : String)
  | missingOperand (operand : Operand)
  | missingCommand
  | unknownCommand (text : String)
deriving Repr, DecidableEq

namespace UsageError

/-- The error as it is told. -/
def message : UsageError → String
  | unknownArgument text => "unexpected argument '" ++ text ++ "' found"
  | missingValue flag => "a value is required for '--" ++ flag.long ++ "' but none was supplied"
  | needlessValue flag =>
    "unexpected value for '--" ++ flag.long ++ "' found; no more were expected"
  | repeated flag => "the argument '--" ++ flag.long ++ "' cannot be used multiple times"
  | badValue flag text => "invalid value '" ++ text ++ "' for '--" ++ flag.long ++ "'"
  | badOperand operand text => "invalid value '" ++ text ++ "' for '<" ++ operand.name ++ ">'"
  | missingOperand operand =>
    "the following required arguments were not provided: <" ++ operand.name ++ ">"
  | missingCommand => "a command is required but one was not provided"
  | unknownCommand text => "unrecognized subcommand '" ++ text ++ "'"

end UsageError

/-- A piece of a command line. -/
inductive Argument where
  | flag (flag : Flag)
  | setting (flag : Flag) (value : String)
  /-- A flag with its value in the next argument. -/
  | settingApart (flag : Flag) (value : String)
  | operand (text : String)
deriving Repr, DecidableEq

/-- How a row of arguments ends. -/
inductive Ending where
  | done
  /-- A command, and the arguments after it. -/
  | command (word : String) (rest : List String)
  | fault (e : UsageError)
deriving Repr, DecidableEq

/-- Arguments taken apart, as far as they are not at fault. -/
structure Arguments where
  pieces : List Argument
  ending : Ending
deriving Repr, DecidableEq

namespace Arguments

/-- No arguments but a fault. -/
def ofFault (e : UsageError) : Arguments := ⟨[], .fault e⟩

/-- The pieces that are looked at after the arguments of a command: a value right before the word
for the command, in an argument of its own. -/
def late (arguments : Arguments) : List Argument :=
  match arguments.ending, arguments.pieces.getLast? with
  | .command _ _, some (.settingApart flag value) => [.settingApart flag value]
  | _, _ => []

/-- The pieces that are looked at before the arguments of a command. -/
def prompt (arguments : Arguments) : List Argument :=
  arguments.pieces.take (arguments.pieces.length - arguments.late.length)

/-- One more piece in front. -/
def cons (piece : Argument) (rest : Arguments) : Arguments :=
  ⟨piece :: rest.pieces, rest.ending⟩

/-- The flags and the words that are known where the arguments stand. -/
structure Context where
  flags : List Flag
  commands : List String
  /-- The number of operands there may be. -/
  operands : Nat
deriving Repr, DecidableEq

/-- The flag with the given long form. -/
def Context.long? (context : Context) (name : String) : Option Flag :=
  context.flags.find? (·.long == name)

/-- The flag with the given short form. -/
def Context.short? (context : Context) (c : Char) : Option Flag :=
  context.flags.find? (·.short? == some c)

/-- One operand fewer. -/
def Context.afterOperand (context : Context) : Context :=
  { context with operands := context.operands - 1 }

/-- What one argument with flags comes to. -/
inductive FlagText where
  | whole (pieces : List Argument)
  /-- The value of the last flag is still to come. -/
  | unfinished (pieces : List Argument) (flag : Flag)
  | faulty (pieces : List Argument) (e : UsageError)
deriving Repr, DecidableEq

/-- A flag in front of what comes after it. -/
def FlagText.cons (piece : Argument) : FlagText → FlagText
  | whole pieces => whole (piece :: pieces)
  | unfinished pieces flag => unfinished (piece :: pieces) flag
  | faulty pieces e => faulty (piece :: pieces) e

/-- Reads a long flag, which is `s` without its hyphens. -/
def longFlag (context : Context) (s : List Char) : FlagText :=
  let (name, value) :=
    match Text.cutAt? '=' s with
    | some (name, value) => (String.ofList name, some (String.ofList value))
    | none => (String.ofList s, none)
  match context.long? name with
  | none => .faulty [] (.unknownArgument ("--" ++ name))
  | some flag =>
    match flag.takesValue, value with
    | true, some v => .whole [.setting flag v]
    | true, none => .unfinished [] flag
    | false, some _ => .faulty [] (.needlessValue flag)
    | false, none => .whole [.flag flag]

/-- Reads short flags, which are `s` without its hyphen. -/
def shortFlags (context : Context) : List Char → FlagText
  | [] => .whole []
  | c :: rest =>
    match context.short? c with
    | none => .faulty [] (.unknownArgument (String.ofList ['-', c]))
    | some flag =>
      if flag.takesValue then
        match rest with
        | [] => .unfinished [] flag
        | '=' :: value => .whole [.setting flag (String.ofList value)]
        | value => .whole [.setting flag (String.ofList value)]
      else (shortFlags context rest).cons (.flag flag)

/-- An argument taken for itself, before any `--`. -/
inductive Shape where
  | long (s : List Char)
  | short (s : List Char)
  | plain
deriving Repr, DecidableEq

/-- What an argument looks like. -/
def shape (arg : String) : Shape :=
  match arg.toList with
  | '-' :: '-' :: s => .long s
  | ['-'] => .plain
  | '-' :: s => .short s
  | _ => .plain

/-- Reads arguments none of which is a flag. -/
def operandsOnly (context : Context) : List String → Arguments
  | [] => ⟨[], .done⟩
  | arg :: rest =>
    if context.operands = 0 then ofFault (.unknownArgument arg)
    else cons (.operand arg) (operandsOnly context.afterOperand rest)

/-- The arguments that start with the given flags. -/
def withFlags (text : FlagText) (next : Option Flag → Arguments) : Arguments :=
  match text with
  | .whole pieces => let rest := next none; ⟨pieces ++ rest.pieces, rest.ending⟩
  | .unfinished pieces flag => let rest := next (some flag); ⟨pieces ++ rest.pieces, rest.ending⟩
  | .faulty pieces e => ⟨pieces, .fault e⟩

/-- Takes arguments apart. The flag in `pending` is still without its value. -/
def read (context : Context) (pending : Option Flag) : List String → Arguments
  | [] =>
    match pending with
    | some flag => ofFault (.missingValue flag)
    | none => ⟨[], .done⟩
  | arg :: rest =>
    match pending, shape arg with
    | some flag, .plain => cons (.settingApart flag arg) (read context none rest)
    | some flag, _ => ofFault (.missingValue flag)
    | none, .long [] => operandsOnly context rest
    | none, .long s => withFlags (longFlag context s) fun pending => read context pending rest
    | none, .short s => withFlags (shortFlags context s) fun pending => read context pending rest
    | none, .plain =>
      if context.commands.contains arg then ⟨[], .command arg rest⟩
      else if context.operands = 0 then ofFault (.unknownArgument arg)
      else cons (.operand arg) (read context.afterOperand none rest)

/-- Every piece is looked at, the late ones last. -/
theorem prompt_append_late (arguments : Arguments) :
    arguments.prompt ++ arguments.late = arguments.pieces := by
  unfold prompt late
  split
  · next hLast =>
    obtain ⟨init, hInit⟩ := List.getLast?_eq_some_iff.mp hLast
    simp [hInit]
  · simp

end Arguments

end TicketTrail
