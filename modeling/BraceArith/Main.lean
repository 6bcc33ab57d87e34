import BraceArith.CommandLine.Program
import BraceArith.View.Frame

/-!
# The command line

The outer layer: it reads arguments and standard input, writes the real files, and prints.
-/

namespace BraceArith.CommandLine

/-! ## §1 Files and streams -/

/-- The fault that the system's number stands for. -/
def faultOfCode? (code : UInt32) : Option WriteFault :=
  if code = 2 then some .notFound
  else if code = 20 then some .notDirectory
  else if code = 21 then some .isDirectory
  else if code = 36 then some .nameTooLong
  else none

/-- The fault behind an error of the system. -/
def faultOf (e : IO.Error) : WriteFault :=
  let code? : Option UInt32 := match e with
    | .noFileOrDirectory _ code _ => some code
    | .inappropriateType _ code _ => some code
    | .invalidArgument _ code _ => some code
    | _ => none
  (code?.bind faultOfCode?).getD (.refused (toString e))

/-- Replaces the content of the file at `path`. -/
def save (path text : String) : IO (Option WriteFault) := do
  try
    IO.FS.writeFile path text
    return none
  catch e => return some (faultOf e)

/-- Writes what is to be written to the real files. -/
def perform {α : Type} : Saving α → IO α
  | .done result => return result
  | .write path text result => return result (← save path text)

/-- Prints a response and hands its exit code on. -/
def finish (response : Response) : IO UInt32 := do
  IO.print response.stdout
  IO.eprint response.stderr
  return response.exitCode.toUInt32

/-- Reads the bytes through the first line feed, or a little more. -/
partial def readThroughLine (stream : IO.FS.Stream) (before : ByteArray) : IO ByteArray := do
  let chunk ← stream.read 4096
  let bytes := before ++ chunk
  if chunk.isEmpty || chunk.toList.contains 10 then return bytes
  else readThroughLine stream bytes

/-- Prompts for a line and reads it, with its bytes and perhaps some behind them. -/
def askForLine : IO (List UInt8) := do
  IO.print prompt
  (← IO.getStdout).flush
  return (← readThroughLine (← IO.getStdin) .empty).toList

/-! ## §2 The explorer

Without control over the terminal, keys arrive line by line: the characters of each line are typed
and the line is submitted, and a frame is printed in between.
-/

/-- Prints a frame and gives back the explorer with its offsets settled. -/
def printFrame (e : Explorer) : IO Explorer := do
  for row in (e.frame 80 24).canvas.rows do
    IO.println (String.join (row.map Screen.Cell.symbol))
  return e.settle 80 24

/-- Types and submits lines until there are no more. -/
partial def explore (stream : IO.FS.Stream) (e : Explorer) : IO Explorer := do
  let e ← printFrame e
  let text ← stream.getLine
  if text.isEmpty then return e
  let typed := text.toList.filter (· ≠ '\n')
  explore stream (← perform (typed.foldl (fun e c => e.handle (.character c)) e).submission)

/-! ## §3 The program -/

/-- Runs the program. -/
def runProgram (arguments : List String) : IO UInt32 := do
  match Task.ofArguments arguments with
  | .respond response => finish (← perform response)
  | .readLine output => finish (← perform (inputResponse output (← askForLine)))
  | .explore output => finish (← explore (← IO.getStdin) { outputPath := output }).farewell

end BraceArith.CommandLine

/-- Entry point. -/
def main (arguments : List String) : IO UInt32 :=
  BraceArith.CommandLine.runProgram arguments
