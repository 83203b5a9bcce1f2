/-
Invocations: what a command line asks for.  The first argument that is neither
a flag nor the value of one names the command; the flags of all commands may
stand anywhere.
-/
import ToyRisc.CommandLine.Flag

namespace ToyRisc.CommandLine

/-- What is asked for. -/
inductive Invocation where
  | help
  | version
  /-- The command line makes no sense. -/
  | refused
  | lex (path : String) (options : Options)
  | run (path : String) (options : Options)
  deriving DecidableEq, Repr

inductive Command where
  | run
  | lex
  | help
  | completion
  deriving DecidableEq, Repr

def Command.ofName? : String → Option Command
  | "run" => some .run
  | "lex" => some .lex
  | "help" => some .help
  | "completion" => some .completion
  | _ => none

/-- The flags that are known before a command is found. -/
def outerFlags : List Flag := .version :: Flag.shared

/-- Whether an argument is a flag whose value is the next argument, as far as that
is known before a command is found. -/
def takesNext (arg : String) : Bool :=
  match arg.toList with
  | '-' :: '-' :: text =>
      !text.contains '=' && !((findName? outerFlags (String.ofList text)).any Flag.isSwitch)
  | ['-', letter] => letter != '=' && !((findLetter? outerFlags letter).any Flag.isSwitch)
  | _ => false

def looksLikeFlag (arg : String) : Bool := arg.toList.head? == some '-'

/-- The first argument that may name a command.  The value of a last flag is never
looked at. -/
def commandName? : List String → Option String
  | [] => none
  | arg :: args =>
      if arg == "--" then none
      else if takesNext arg then
        match args with
        | _ :: next :: rest => commandName? (next :: rest)
        | _ => none
      else if arg.isEmpty || looksLikeFlag arg then commandName? args
      else some arg

def withoutName (name : String) : List String → List String
  | [] => []
  | arg :: args =>
      if arg == "--" then arg :: args
      else if takesNext arg then
        match args with
        | [] => [arg]
        | value :: rest => arg :: value :: withoutName name rest
      else if arg == name then args
      else arg :: withoutName name args

/-- A command applied to its only argument. -/
def onFile (flags : List Flag) (command : String → Options → Invocation)
    (args : List String) : Invocation :=
  match readArguments (Flag.help :: flags) args with
  | none => .refused
  | some (options, plain) =>
      if options.help then .help
      else
        match plain with
        | [path] => command path options
        | _ => .refused

def onlyHelp (flags : List Flag) (args : List String) : Invocation :=
  match readArguments (Flag.help :: flags) args with
  | none => .refused
  | some (options, _) => if options.version && !options.help then .version else .help

def Invocation.ofArguments (args : List String) : Invocation :=
  match commandName? args with
  | none => onlyHelp outerFlags args
  | some name =>
      match Command.ofName? name with
      | none => .refused
      | some .run => onFile (Flag.shared ++ Flag.running) .run (withoutName name args)
      | some .lex => onFile Flag.shared .lex (withoutName name args)
      | some .help => onlyHelp Flag.shared (withoutName name args)
      | some .completion => onlyHelp Flag.shared (withoutName name args)

end ToyRisc.CommandLine
