/-
Flags.  A flag has a long name and perhaps a letter.  A switch needs no value;
any other flag takes one, behind an equals sign, directly behind its letter or
as the next argument.
-/
import ToyRisc.CommandLine.Reading

namespace ToyRisc.CommandLine

/-- What can be chosen on a command line. -/
structure Options where
  help : Bool := false
  version : Bool := false
  verbose : Bool := false
  expressions : Bool := false
  definitions : List String := []
  enforceGlobal : Bool := true
  memorySize : Int := 256
  printMode : Int := 0
  maxSteps : Int := 0
  deriving DecidableEq, Repr

/-- How a flag changes the options, given its value. -/
inductive Effect where
  /-- A switch, which stands for true where no value is given. -/
  | switch (set : Bool → Options → Options)
  | number (set : Int → Options → Options)
  | text (set : String → Options → Options)

structure Flag where
  name : String
  letter : Option Char
  effect : Effect

namespace Flag

/-- Whether a flag needs no value. -/
def isSwitch (flag : Flag) : Bool :=
  match flag.effect with
  | .switch _ => true
  | _ => false

/-- The options after a flag with the given value. -/
def withValue? (flag : Flag) (value : String) (options : Options) : Option Options :=
  match flag.effect with
  | .switch set => (readBool? value).map (set · options)
  | .number set => (readInt? value).map (set · options)
  | .text set => some (set value options)

def help : Flag :=
  ⟨"help", some 'h', .switch fun value options => { options with help := value }⟩

def version : Flag :=
  ⟨"version", none, .switch fun value options => { options with version := value }⟩

/-- The flags that every command has. -/
def shared : List Flag :=
  [⟨"verbose", some 'v', .switch fun value options => { options with verbose := value }⟩,
    ⟨"expr", some 'e', .switch fun value options => { options with expressions := value }⟩,
    ⟨"define", some 'D', .text fun value options =>
      { options with definitions := options.definitions ++ [value] }⟩]

/-- The flags of the command that runs a program. -/
def running : List Flag :=
  [⟨"global", none, .switch fun value options => { options with enforceGlobal := value }⟩,
    ⟨"memory", some 'm', .number fun value options => { options with memorySize := value }⟩,
    ⟨"print", some 'p', .number fun value options => { options with printMode := value }⟩,
    ⟨"max-steps", none, .number fun value options => { options with maxSteps := value }⟩]

end Flag

def findName? (flags : List Flag) (name : String) : Option Flag :=
  flags.find? (·.name == name)

def findLetter? (flags : List Flag) (letter : Char) : Option Flag :=
  flags.find? (·.letter == some letter)

/-- The options given by a long flag and the arguments behind it, and the
arguments that are left. -/
def readLong (flags : List Flag) (text : List Char) (args : List String) (options : Options) :
    Option (Options × List String) := do
  let name := text.takeWhile (· != '=')
  if name.isEmpty || name.head? == some '-' then none
  let flag ← findName? flags (String.ofList name)
  match text.dropWhile (· != '='), args with
  | _ :: value, args => do
      let options ← flag.withValue? (String.ofList value) options
      some (options, args)
  | [], args =>
      if flag.isSwitch then do
        let options ← flag.withValue? "true" options
        some (options, args)
      else
        match args with
        | [] => none
        | value :: args => do
            let options ← flag.withValue? value options
            some (options, args)

/-- The options given by the letters of a short argument and the arguments behind
it, and the arguments that are left. -/
def readShort (flags : List Flag) (args : List String) (options : Options) :
    List Char → Option (Options × List String)
  | [] => some (options, args)
  | letter :: rest => do
      let flag ← findLetter? flags letter
      match rest with
      | '=' :: c :: value => do
          let options ← flag.withValue? (String.ofList (c :: value)) options
          some (options, args)
      | _ =>
          if flag.isSwitch then do
            let options ← flag.withValue? "true" options
            readShort flags args options rest
          else
            match rest, args with
            | _ :: _, args => do
                let options ← flag.withValue? (String.ofList rest) options
                some (options, args)
            | [], [] => none
            | [], value :: args => do
                let options ← flag.withValue? value options
                some (options, args)

/-- The options of a list of arguments, and the arguments that are no flags, behind
those already read.  Every step takes at least one argument. -/
def readFlags (flags : List Flag) : Nat → Options → List String → List String →
    Option (Options × List String)
  | 0, options, plain, _ => some (options, plain)
  | _ + 1, options, plain, [] => some (options, plain)
  | n + 1, options, plain, arg :: args =>
      match arg.toList with
      | ['-', '-'] => some (options, plain ++ args)
      | '-' :: '-' :: text => do
          let (options, args) ← readLong flags text args options
          readFlags flags n options plain args
      | '-' :: letter :: letters => do
          let (options, args) ← readShort flags args options (letter :: letters)
          readFlags flags n options plain args
      | _ => readFlags flags n options (plain ++ [arg]) args

/-- The options of a list of arguments, and the arguments that are no flags. -/
def readArguments (flags : List Flag) (args : List String) :
    Option (Options × List String) :=
  readFlags flags args.length {} [] args

end ToyRisc.CommandLine
