import ProjectContext.CommandLine.Outcome
import ProjectContext.FileTree.Listing

/-!
# The program

The arguments ask for a report or a context map. The files that it is made of come as a listing on
the standard input, which is read only where the arguments make sense.
-/

namespace ProjectContext.CommandLine

def readLines (input : IO.FS.Stream) : IO (List String) := do
  let mut lines := #[]
  repeat
    let line ← input.getLine
    if line.isEmpty then break
    lines := lines.push line
  return lines.toList

def execute (args : List String) : IO UInt32 := do
  let words := args.map Bytes.ofString
  let lines ← match read words with
    | .ok _ => readLines (← IO.getStdin)
    | .error _ => pure []
  match FileSystem.ofListing? lines with
  | none =>
    (← IO.getStderr).putStrLn "error: the listing of files is malformed"
    return 2
  | some fs =>
    let outcome := run fs words
    (← IO.getStderr).putStr outcome.errors
    (← IO.getStdout).putStr outcome.output
    return outcome.code

end ProjectContext.CommandLine

def main (args : List String) : IO UInt32 := ProjectContext.CommandLine.execute args
