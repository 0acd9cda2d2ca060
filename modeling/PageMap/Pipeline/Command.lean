import PageMap.Pipeline.Basic
/-! # The command line

The command lays out the data of one file with the map of another and writes the drawing operations.
A third file may hold settings. A list of data is laid out one record per part; anything else is a
single record.
-/

namespace PageMap

namespace Command

/-- How to call the command. -/
def usage (program : String) : List String :=
  ["Lays out JSON data with an XML page map and prints the draw operations.",
    "",
    "Usage: " ++ program ++ " <path/to/map.xml> <path/to/data.json> [path/to/config.json]",
    "",
    "A top-level JSON array is laid out one record per part."]

def content (file : Option String) : Except BuildError String :=
  match file with
  | some text => .ok text
  | none => .error .io

def readMap (file : Option String) : Except BuildError Node := do
  match Xml.readDocument? (← content file) with
  | some map => return map
  | none => throw .xml

def readConfig (file : Option String) : Except BuildError PipelineConfig := do
  match PipelineConfig.ofText? (← content file) with
  | some config => return config
  | none => throw .json

/-- The records of some data. -/
def records : Json → List Json
  | .array records => records
  | record => [record]

def readData (file : Option String) : Except BuildError Json := do
  match Json.ofText? (← content file) with
  | some data => return data
  | none => throw .json

/-- The text that the command writes for a map, data and perhaps settings. A file that cannot be
    read has no content. -/
def output (map data : Option String) (config : Option (Option String)) :
    Except BuildError String := do
  let map ← readMap map
  let config ← match config with
    | some file => readConfig file
    | none => pure PipelineConfig.default
  let pipeline ← Pipeline.make (some map) none config .default (Observer.silent (σ := Unit))
  let ops ← pipeline.drawing () (records (← readData data))
  return (Json.array (ops.map DrawOp.toJson)).pretty ++ "\n"

inductive Result where
  | printed (text : String)
  | failed (cause : BuildError)
  | misused

/-- Runs the command with the contents of the files that it is called with. -/
def run : List (Option String) → Result
  | [map, data] => ofOutput (output map data none)
  | [map, data, config] => ofOutput (output map data (some config))
  | _ => .misused
where
  ofOutput : Except BuildError String → Result
    | .ok text => .printed text
    | .error cause => .failed cause

end Command

end PageMap
