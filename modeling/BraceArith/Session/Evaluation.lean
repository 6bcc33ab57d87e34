import BraceArith.Disk.Basic
import BraceArith.Session.Report

/-!
# Evaluating a single line

In line mode one line is read, its report is printed, and its graph description is written to a
file.  Progress and errors go to standard error, results to standard output.

## Main definitions

- `Response`: what a finished program leaves behind, files apart
- `lineResponse`, `inputResponse`: what line mode says to a line, and to a standard input
- `evaluateLine`: line mode on a line given beforehand
- `evaluateInput`: line mode on the first line of standard input
-/

namespace BraceArith

/-! ## §1 Responses -/

/-- What a finished program leaves behind, files apart. -/
structure Response where
  /-- The exit code; zero means success. -/
  exitCode : Nat
  /-- Everything written to standard output. -/
  stdout : String := ""
  /-- Everything written to standard error. -/
  stderr : String := ""
deriving DecidableEq, Repr

namespace Response

/-- A failure with a message on standard error. -/
def failure (message : String) : Response where
  exitCode := 1
  stderr := "Error: " ++ message ++ "\n"

/-- What is said about a line's tree before its results. -/
def progress (report : Report) : String :=
  "Parsed successfully. Tree has " ++ toString report.tree.nodeCount ++ " node(s), depth " ++
    toString report.tree.depth ++ ".\n" ++
    match report.trailing with
    | some trailing => "Warning: ignoring trailing input '" ++ trailing ++ "'\n"
    | none => ""

/-- The results of a line. -/
def results (report : Report) : String :=
  "Expression Tree: " ++ report.rendering ++ "\nEvaluated Result: " ++
    Decimal.text report.value ++ "\n"

/-- What is said after a graph description has been written to `path`. -/
def writtenTo (path : String) : String :=
  "DOT file written to " ++ path

/-- The response to a line with a report, once it is known whether its graph description could be
    written to `path`. -/
def ofReport (path : String) (report : Report) : Option WriteFault → Response
  | none =>
    { exitCode := 0
      stdout := results report ++ writtenTo path ++ "\n"
      stderr := progress report }
  | some fault =>
    { exitCode := 1
      stdout := results report
      stderr := progress report ++ "Error: failed to write " ++ path ++ ": " ++ fault.message ++
        "\n" }

end Response

/-! ## §2 Line mode -/

/-- The response to `line`, whose graph description is to be written to `path`. -/
def lineResponse (path line : String) : Saving Response :=
  match analyze line with
  | .error e => .done (.failure e.display)
  | .ok report => .write path (Graph.document report.tree) (.ofReport path report)

/-- Evaluates `line` and writes its graph description to `path`.  A line that starts with no
    expression, and one whose graph description cannot be written, leaves the disk as it was. -/
def evaluateLine (disk : Disk) (path line : String) : Response × Disk :=
  (lineResponse path line).onDisk disk

section

variable {disk written : Disk} {path line : String} {report : Report} {fault : WriteFault}

theorem evaluateLine_of_error {error : SyntaxError} (h : analyze line = .error error)
    (disk : Disk) (path : String) :
    evaluateLine disk path line = (.failure error.display, disk) := by
  simp only [evaluateLine, lineResponse, h, Saving.onDisk]

theorem evaluateLine_of_written (h : analyze line = .ok report)
    (hwrite : disk.write path (Graph.document report.tree) = .ok written) :
    evaluateLine disk path line = (.ofReport path report none, written) := by
  simp only [evaluateLine, lineResponse, h, Saving.onDisk, hwrite]

theorem evaluateLine_of_fault (h : analyze line = .ok report)
    (hwrite : disk.write path (Graph.document report.tree) = .error fault) :
    evaluateLine disk path line = (.ofReport path report (some fault), disk) := by
  simp only [evaluateLine, lineResponse, h, Saving.onDisk, hwrite]

end

/-- What is written to standard output before a line is read from standard input. -/
def prompt : String := "Enter expression: "

/-- The bytes through the first line feed. -/
def firstLine : List UInt8 → List UInt8
  | [] => []
  | b :: rest => if b = 10 then [b] else b :: firstLine rest

/-- The response when the first line of standard input is no text. -/
def notText : Response :=
  .failure "Error \x7b kind: InvalidData, message: \"stream did not contain valid UTF-8\" \x7d"

/-- The response to the first line of `input`, the prompt apart. -/
def inputResponse (path : String) (input : List UInt8) : Saving Response :=
  match String.fromUTF8? ⟨(firstLine input).toArray⟩ with
  | some line => lineResponse path line
  | none => .done notText

/-- Evaluates the first line of `input`.  What follows that line is never looked at. -/
def evaluateInput (disk : Disk) (path : String) (input : List UInt8) : Response × Disk :=
  let (response, disk) := (inputResponse path input).onDisk disk
  ({ response with stdout := prompt ++ response.stdout }, disk)

end BraceArith
