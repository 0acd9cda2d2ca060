import PageMap.PageSize
/-! # Settings of a document
-/

namespace PageMap

structure DocumentConfig where
  defaultPageSize : PageSize
  /-- The distance in points between records on one page. -/
  partHeight : Single
  deriving BEq

namespace DocumentConfig

/-- Sheets of A4 with all records at the top. -/
def default : DocumentConfig := ⟨.a4, 0.0⟩

/-- Reads the settings, valuing at most `depth` objects within each other. A field that is missing
    has its default. -/
def ofWritten? (depth : Nat) (w : Json.Written) : Option DocumentConfig := do
  let [pageSize, partHeight] ← w.fields? ["defaultPageSize", "partHeight"] | none
  return {
    defaultPageSize :=
      ← Json.Written.fieldOr default.defaultPageSize (PageSize.ofWritten? (depth - 1)) pageSize
    partHeight := ← Json.Written.fieldOr default.partHeight Json.Written.single? partHeight }

end DocumentConfig

end PageMap
