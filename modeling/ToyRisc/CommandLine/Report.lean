/-
Reports: what a command writes and logs, and its exit status.  Running a
program may take for ever, so a run is handed out to be carried on.
-/
import ToyRisc.CommandLine.Invocation
import ToyRisc.Machine.Run
import ToyRisc.Source

namespace ToyRisc.CommandLine

/-- Why a file cannot be read. -/
inductive FileError where
  | missing
  | directory
  | other (reason : String)
  deriving DecidableEq, Repr

def FileError.message (path : String) : FileError → String
  | missing => "open " ++ path ++ ": no such file or directory"
  | directory => "read " ++ path ++ ": is a directory"
  | other reason => "open " ++ path ++ ": " ++ reason

/-- What a command leaves behind. -/
structure Report where
  written : String
  log : List LogLine
  status : UInt32
  deriving DecidableEq, Inhabited, Repr

/-- The log line for an error. -/
def failure (path message : String) : LogLine := ⟨.error, path ++ ": " ++ message⟩

/-- The rows of a program file with the log of loading them, or the log of its
refusal.  Definitions are read before the file. -/
def loadFile (path : String) (options : Options) (file : Except FileError Text) :
    Except (List LogLine) (List (List Token) × List LogLine) :=
  match Definitions.ofItems options.definitions, file with
  | (_, some error), _ => .error [failure path error.message]
  | (_, none), .error error => .error [failure path (error.message path)]
  | (definitions, none), .ok text =>
      let loaded := Source.load { expressions := options.expressions, definitions } text
      let log := if options.verbose then loaded.log else []
      match loaded.error with
      | some error => .error (log ++ [failure path error.message])
      | none => .ok (loaded.rows, log)

def Report.ofFailure (log : List LogLine) : Report := ⟨"", log, 1⟩

/-- One written line for each row: its number and its tokens. -/
def listing (rows : List (List Token)) : String :=
  String.join (rows.map fun row =>
    Decimal.text ((row.head?.map Token.line).getD 0) ++ ": " ++ Token.renderRow row ++ "\n")

/-- The report of the command that lists tokens. -/
def lexReport (path : String) (options : Options) (file : Except FileError Text) : Report :=
  match loadFile path options file with
  | .error log => .ofFailure log
  | .ok (rows, log) => ⟨listing rows, log, 0⟩

def machineOf (options : Options) (rows : List (List Token)) : Machine :=
  .start (.ofTokens rows)
    { enforceGlobal := options.enforceGlobal
      memorySize := options.memorySize
      printMode := .ofCode options.printMode
      verbose := options.verbose
      sink := .buffer }

/-- A run that has not begun, with the log of loading, or the report of a refused
file. -/
def startRun (path : String) (options : Options) (file : Except FileError Text) :
    Except Report (Run × List LogLine) :=
  match loadFile path options file with
  | .error log => .error (.ofFailure log)
  | .ok (rows, log) => .ok (.startBounded (machineOf options rows), log)

def finalRegisters (run : Run) : String :=
  "registers: " ++ run.machine.registers.render ++ "\n"

/-- What is written, logged and returned at the end of a run. -/
def endReport (path : String) (run : Run) : Ending → Report
  | .completed => ⟨finalRegisters run, [], 0⟩
  | .stopped steps =>
      ⟨finalRegisters run,
        [⟨.warning, path ++ ": stopped after " ++ Decimal.text steps ++ " steps"⟩], 0⟩
  | .refused fault => ⟨"", [failure path fault.message], 1⟩
  | .unwritten => ⟨"", [failure path "write failed"], 1⟩

/-- The report of a whole run, once it has an ending. -/
def runReport? (path : String) (log : List LogLine) (run : Run) : Option Report :=
  run.ending.map fun ending =>
    let final := endReport path run ending
    ⟨run.written ++ final.written, log ++ run.log.toList ++ final.log, final.status⟩

end ToyRisc.CommandLine
