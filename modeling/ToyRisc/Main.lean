/-
The command line program.
-/
import ToyRisc.CommandLine.Report

namespace ToyRisc.CommandLine

/-- What the program says about its use. -/
def usage : String :=
  String.intercalate "\n"
    ["An interpreter for a small RISC-V flavoured assembly language.",
      "",
      "Usage:",
      "  toyrisc run [flags] program.s",
      "  toyrisc lex [flags] program.s",
      "",
      "Flags:",
      "  -v, --verbose            log rows while they are loaded and executed",
      "  -e, --expr               expand $(...) expressions",
      "  -D, --define NAME=VALUE  define a name for expressions",
      "  -h, --help               show this text",
      "",
      "Flags of run:",
      "      --global             require '.global <label>' on the first line (default true)",
      "  -m, --memory SIZE        memory size in bytes (default 256)",
      "  -p, --print MODE         print after each step: 0 none, 1 registers, 2 memory, 3 both",
      "      --max-steps N        stop after this many steps (0 for no limit)",
      ""]

def readText (path : String) : IO (Except FileError Text) := do
  match ← (IO.FS.readBinFile path).toBaseIO with
  | .ok bytes => return .ok (.ofBytes bytes.toList)
  | .error (.noFileOrDirectory ..) => return .error .missing
  | .error (.inappropriateType ..) => return .error .directory
  | .error error => return .error (.other (toString error))

def writeLog (log : List LogLine) : IO Unit :=
  log.forM fun line => IO.eprintln line.render

/-- Writes a report and returns its status. -/
def writeReport (report : Report) : IO UInt32 := do
  IO.print report.written
  writeLog report.log
  return report.status

/-- Carries a run on to its end, writing what it writes on the way. -/
partial def carryOn (path : String) (limit : Int) (run : Run) : IO UInt32 := do
  let run := run.proceedBounded limit 256
  IO.print run.written
  writeLog run.log.toList
  match run.ending with
  | some ending => writeReport (endReport path run ending)
  | none => carryOn path limit { run with written := "", log := #[] }

/-- Does what the arguments ask for and returns the exit status. -/
def dispatch (args : List String) : IO UInt32 := do
  match Invocation.ofArguments args with
  | .help => IO.print usage; return 0
  | .version => IO.println "toyrisc (unknown version)"; return 0
  | .refused => IO.eprint usage; return 1
  | .lex path options => writeReport (lexReport path options (← readText path))
  | .run path options =>
      match startRun path options (← readText path) with
      | .error report => writeReport report
      | .ok (run, log) =>
          writeLog log
          carryOn path options.maxSteps run

end ToyRisc.CommandLine

def main (args : List String) : IO UInt32 := ToyRisc.CommandLine.dispatch args
