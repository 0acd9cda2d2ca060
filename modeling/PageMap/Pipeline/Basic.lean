import PageMap.Document.Basic
import PageMap.Pipeline.Config
import PageMap.Xml.Document
/-! # Pipelines

A pipeline turns records into a document. Each page takes the same number of records, one below the
other; a new page is begun when the last one is full.
-/

namespace PageMap

/-- Why settings do not make a pipeline. -/
inductive ConfigError where
  | noMap
  | noRecordsPerPage
  deriving DecidableEq

def ConfigError.message : ConfigError → String
  | .noMap => "No map was provided"
  | .noRecordsPerPage => "recordsPerPage must be at least 1"

/-- Why no document was made. -/
inductive BuildError where
  /-- A file could not be read. -/
  | io
  | xml
  | json
  | format (cause : FormatError)
  | layout (cause : LayoutError)
  | document (cause : DocumentError)
  | config (cause : ConfigError)
  /-- The program ended while a record was laid out, and nothing was given back. -/
  | crash
  deriving DecidableEq

/-- The message of an error, where it has more to say than its kind. -/
def BuildError.message? : BuildError → Option String
  | .io | .xml | .json | .crash => none
  | .format cause => some ("Format configuration error: " ++ cause.message)
  | .layout cause => some ("Layout error: " ++ cause.message)
  | .document cause => some ("Document error: " ++ cause.message)
  | .config cause => some ("Configuration error: " ++ cause.message)

/-- Everything that records are laid out with. -/
structure Pipeline (σ : Type) where
  map : Node
  /-- A map whose constants are taken in on every page before its first record. -/
  constants : Option Node
  config : PipelineConfig
  layoutConfig : LayoutConfig
  services : Services
  observer : Observer σ
  recordsPerPage_ne_zero : config.recordsPerPage ≠ 0

namespace Pipeline

variable {σ : Type}

/-- Checks the parts of a pipeline: there has to be a map, pages have to take records, and the
    patterns have to be right. -/
def make (map constants : Option Node) (config : PipelineConfig) (services : Services)
    (observer : Observer σ) : Except BuildError (Pipeline σ) :=
  match map with
  | none => .error (.config .noMap)
  | some map =>
      if h : config.recordsPerPage = 0 then .error (.config .noRecordsPerPage)
      else match config.layoutConfig with
        | .error e => .error (.format e)
        | .ok layoutConfig =>
            .ok ⟨map, constants, config, layoutConfig, services, observer, h⟩

def start (p : Pipeline σ) (notes : σ) : Document σ :=
  .new p.config.document p.layoutConfig p.services p.observer notes

/-- Begins a new page at the end, if that is the page that is needed. -/
def turnPage (p : Pipeline σ) (d : Document σ) (index : Nat) :
    Except DocumentError (Document σ) :=
  if index = d.pages.length then
    let d := d.insertDefaultPage index
    match p.constants with
    | some constants => (d.load constants index).map (·.2)
    | none => .ok d
  else .ok d

/-- Lays out the record of a number. -/
def place (p : Pipeline σ) (d : Document σ) (number : Nat) (record : Json) :
    Except BuildError (Document σ) := do
  let perPage := p.config.recordsPerPage
  let d ← (p.turnPage d (number / perPage)).mapError .document
  if d.crashes record p.map (number / perPage) (number % perPage) then throw .crash
  let (result, d) := d.layout record p.map (number / perPage) (number % perPage)
  (result.map fun _ => d).mapError .document

/-- Lays out records from a number on. -/
def placeFrom (p : Pipeline σ) (d : Document σ) (number : Nat) :
    List Json → Except BuildError (Document σ)
  | [] => .ok d
  | record :: records => do
      let d ← p.place d number record
      p.placeFrom d (number + 1) records

def generate (p : Pipeline σ) (notes : σ) (records : List Json) :
    Except BuildError (Document σ) :=
  p.placeFrom (p.start notes) 0 records

def drawing (p : Pipeline σ) (notes : σ) (records : List Json) :
    Except BuildError (List DrawOp) :=
  (p.generate notes records).map fun d => d.draw.1

end Pipeline

end PageMap
