import PageMap.Pipeline.Command
/-! # The program

Reads the files that it is called with, and writes what the command makes of them.
-/

namespace PageMap.Command

/-- The text of a file, if it can be read. -/
def readFile? (path : String) : IO (Option String) := do
  try
    return some (← IO.FS.readFile path)
  catch _ =>
    return none

def failureLine (cause : BuildError) : String :=
  match cause with
  | .io => "Error: a file could not be read"
  | .xml => "Error: the map is no XML document"
  | .json => "Error: the data or the settings are no JSON of the right form"
  | .crash => "Error: a keyword was cut off inside of a character"
  | other => "Error: " ++ other.message?.getD ""

end PageMap.Command

open PageMap in
/-- Lays out a data file with a map and prints the drawing operations. -/
def main (args : List String) : IO UInt32 := do
  let stderr ← IO.getStderr
  match Command.run (← args.mapM Command.readFile?) with
  | .printed text =>
      IO.print text
      return 0
  | .failed cause =>
      stderr.putStrLn (Command.failureLine cause)
      return if cause = .crash then 101 else 1
  | .misused =>
      for line in Command.usage "pagemap" do
        stderr.putStrLn line
      return 1
