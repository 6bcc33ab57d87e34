import BraceArith.CommandLine.Request
import BraceArith.Explorer.State

/-!
# The whole program

From the arguments, the standard input, the keys that are pressed and the disk to everything that
the program leaves behind.
-/

namespace BraceArith.CommandLine

/-- The name under which the program is called. -/
def programName : String := "exptree"

/-- How the program is used. -/
def helpText : String :=
  "Brace-grouped arithmetic expression parser with tree rendering and DOT export\n\n" ++
  "Usage: " ++ programName ++ " [OPTIONS] [EXPRESSION]\n\n" ++
  "Arguments:\n" ++
  "  [EXPRESSION]  Expression to evaluate. Read from standard input when omitted\n\n" ++
  "Options:\n" ++
  "  -o, --output <OUTPUT>  File the DOT graph is written to [default: " ++
    Graph.defaultPath ++ "]\n" ++
  "  -t, --tui              Open the interactive explorer instead of evaluating a single line\n" ++
  "  -h, --help             Print help\n" ++
  "  -V, --version          Print version\n"

/-- The program's version. -/
def versionText : String :=
  programName ++ " 0.1.0\n"

/-- What is left to do once the arguments have been looked at. -/
inductive Task where
  /-- To give a response that needs nothing more to be read. -/
  | respond (response : Saving Response)
  /-- To evaluate the first line of standard input. -/
  | readLine (output : String)
  /-- To open an explorer. -/
  | explore (output : String)

/-- The task that the arguments set. -/
def Task.ofArguments (arguments : List String) : Task :=
  match Request.ofArguments arguments with
  | .error e => .respond (.done { exitCode := 2, stderr := e.message ++ "\n" })
  | .ok .help => .respond (.done { exitCode := 0, stdout := helpText })
  | .ok .version => .respond (.done { exitCode := 0, stdout := versionText })
  | .ok (.evaluate (some line) output) => .respond (lineResponse output line)
  | .ok (.evaluate none output) => .readLine output
  | .ok (.explore output) => .explore output

/-- Runs the program.  `keys` are the key presses that an explorer gets; one that is not told to
    end by them ends afterwards. -/
def run (disk : Disk) (arguments : List String) (input : List UInt8)
    (keys : List Explorer.KeyPress) : Response × Disk :=
  match Task.ofArguments arguments with
  | .respond response => response.onDisk disk
  | .readLine output => evaluateInput disk output input
  | .explore output =>
    let (explorer, disk) := ({ outputPath := output } : Explorer).runUntilQuit disk keys
    (explorer.farewell, disk)

end BraceArith.CommandLine
