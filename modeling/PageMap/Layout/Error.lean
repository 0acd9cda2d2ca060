import PageMap.FormatError
import PageMap.Style.Attribute
/-! # Errors of layout
-/

namespace PageMap

/-- Why a page could not be laid out or changed. A crash is no error that is given back: the program
    ends there. -/
inductive LayoutError where
  | unknownStyleKey (name : String)
  | style (cause : InvalidValue)
  | format (cause : FormatError)
  /-- A renderer refused an element. -/
  | renderer (element reason : String)
  | generic (reason : String)
  | crash
  deriving DecidableEq

def LayoutError.ofStyle : StyleError → LayoutError
  | .invalid cause => .style cause
  | .crash => .crash

def LayoutError.message : LayoutError → String
  | .unknownStyleKey name => "Unknown style key '" ++ name ++ "'"
  | .style cause => "Invalid style value: " ++ cause.message
  | .format cause => "Invalid format pattern: " ++ cause.message
  | .renderer element reason => "Renderer for <" ++ element ++ "> failed: " ++ reason
  | .generic reason => "Generic layout error: " ++ reason
  | .crash => ""

end PageMap
