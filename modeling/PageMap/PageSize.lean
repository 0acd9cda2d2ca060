import PageMap.Geometry
import PageMap.Json.Fields
import PageMap.Text.Blank
import PageMap.Text.Case
/-! # Page sizes
-/

namespace PageMap

/-- The size of a page: a standard format, or an extent in points. -/
inductive PageSize where
  | a4
  | a5
  | custom (size : Size)
  deriving BEq

/-- A name that is no page format. -/
structure UnknownPageSize where
  name : String

def UnknownPageSize.message (e : UnknownPageSize) : String :=
  "Unknown page size: " ++ e.name

namespace PageSize

def dimensions : PageSize → Size
  | .a4 => ⟨mmToPoints 210.0, mmToPoints 297.0⟩
  | .a5 => ⟨mmToPoints 148.0, mmToPoints 210.0⟩
  | .custom size => size

/-- Reads the name of a format, in any case and with blanks around it. -/
def ofName (name : String) : Except UnknownPageSize PageSize :=
  match Text.lowercase (Text.trim name) with
  | "a4" => .ok .a4
  | "a5" => .ok .a5
  | _ => .error ⟨name⟩

def toJson : PageSize → Json
  | .a4 => .string "A4"
  | .a5 => .string "A5"
  | .custom size =>
      .object [("width", Json.ofSingle size.width), ("height", Json.ofSingle size.height)]

/-- Reads a page size from JSON: the name of a format, or an object with a width and a height. All
    parts of the object are valued, at most `depth` deep. -/
def ofWritten? (depth : Nat) (w : Json.Written) : Option PageSize :=
  match w with
  | .string s => do (ofName (← s)).toOption
  | .object members => do
      let _ ← w.value? depth
      let [width, height] ← Json.Written.knownFields? ["width", "height"] members | none
      return .custom ⟨← (← width).single?, ← (← height).single?⟩
  | _ => none

end PageSize

end PageMap
