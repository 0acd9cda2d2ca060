import PageMap.DateFormat
import PageMap.Json.Fields
import PageMap.NumberFormat
/-! # The formats of a document

Settings name two patterns and a currency symbol. Compiled, they are the formats that bound numbers
and dates have where an element does not ask for a pattern of its own.
-/

namespace PageMap

/-- The formats as settings give them. -/
structure FormatSettings where
  decimalPattern : String
  datePattern : String
  currency : String
  deriving DecidableEq

namespace FormatSettings

/-- Grouped decimals with up to three places, dates with hyphens, and dollars. -/
def default : FormatSettings := ⟨"#,##0.###", "%Y-%m-%d", "$"⟩

def fieldNames : List String := ["decimalPattern", "datePattern", "currencySymbol"]

/-- Reads the settings. A field that is missing has its default. -/
def ofWritten? (w : Json.Written) : Option FormatSettings := do
  let [decimal, date, currency] ← w.fields? fieldNames | none
  return {
    decimalPattern := ← Json.Written.fieldOr default.decimalPattern Json.Written.string? decimal
    datePattern := ← Json.Written.fieldOr default.datePattern Json.Written.string? date
    currency := ← Json.Written.fieldOr default.currency Json.Written.string? currency }

end FormatSettings

/-- Compiled formats. -/
structure Formats where
  decimal : NumberFormat
  date : DateFormat
  currency : String
  deriving BEq

namespace Formats

/-- The formats where nothing is configured. -/
def default : Formats := ⟨.decimal, .iso, NumberFormat.defaultCurrency⟩

/-- Compiles the number pattern and then the date pattern of settings. -/
def ofSettings (s : FormatSettings) : Except FormatError Formats := do
  let decimal ← NumberFormat.ofPattern s.decimalPattern
  let date ← DateFormat.ofPattern s.datePattern
  return ⟨decimal.withCurrency s.currency, date, s.currency⟩

/-- Compiles a number pattern for the configured currency. -/
def numberPattern (f : Formats) (pattern : String) : Except FormatError NumberFormat :=
  (NumberFormat.ofPattern pattern).map fun format => format.withCurrency f.currency

end Formats

end PageMap
