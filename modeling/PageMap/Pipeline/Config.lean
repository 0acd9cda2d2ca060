import PageMap.Document.Config
import PageMap.Layout.Site
/-! # Settings of a pipeline
-/

namespace PageMap

structure PipelineConfig where
  scales : Scales
  formats : FormatSettings
  document : DocumentConfig
  recordsPerPage : Nat
  /-- The containers of all items are outlined. -/
  highlight : Bool
  deriving BEq

namespace PipelineConfig

/-- One record on each page. -/
def default : PipelineConfig := ⟨.default, .default, .default, 1, false⟩

def fieldNames : List String :=
  ["scales", "formats", "document", "recordsPerPage", "highlightContainerRects"]

/-- Reads settings. A field that is missing has its default. -/
def ofWritten? (depth : Nat) (w : Json.Written) : Option PipelineConfig := do
  let [scales, formats, document, recordsPerPage, highlight] ← w.fields? fieldNames | none
  return {
    scales := ← Json.Written.fieldOr default.scales Scales.ofWritten? scales
    formats := ← Json.Written.fieldOr default.formats FormatSettings.ofWritten? formats
    document :=
      ← Json.Written.fieldOr default.document (DocumentConfig.ofWritten? (depth - 1)) document
    recordsPerPage :=
      ← Json.Written.fieldOr default.recordsPerPage (Json.Written.natural? Single.maxCount)
        recordsPerPage
    highlight := ← Json.Written.fieldOr default.highlight Json.Written.bool? highlight }

def ofText? (text : String) : Option PipelineConfig := do
  ofWritten? Json.Written.maxDepth (← Json.Written.ofText? text)

def layoutConfig (c : PipelineConfig) : Except FormatError LayoutConfig := do
  let formats ← Formats.ofSettings c.formats
  return { LayoutConfig.default with scales := c.scales, formats, highlight := c.highlight }

end PipelineConfig

end PageMap
