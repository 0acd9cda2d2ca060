import PageMap.Text.Blank
/-! # Text content

Content taken from a map or from data is cleaned before it is placed: line ends become line feeds
and, unless an element asks otherwise, blanks around it are removed. A validator then decides
whether it may be placed.
-/

namespace PageMap.Text

/-- Joins each carriage return and line feed that stand side by side into a line feed. -/
def joinLineEnds : List Char → List Char
  | '\r' :: '\n' :: cs => '\n' :: joinLineEnds cs
  | c :: cs => c :: joinLineEnds cs
  | [] => []

/-- Turns every line end into a line feed: first the pairs, then each carriage return left. -/
def normalizeLineEnds (cs : List Char) : List Char :=
  (joinLineEnds cs).map fun c => if c = '\r' then '\n' else c

/-- The content of an element: line ends made uniform, then blanks trimmed if asked for. -/
def cleanContent (s : String) (trimmed : Bool) : String :=
  let cs := normalizeLineEnds s.toList
  String.ofList (if trimmed then trimBy isBlank cs else cs)

/-- Has no control character other than line feed and tab. -/
def isPrintable (s : String) : Bool :=
  s.toList.all fun c => !isControl c || c = '\n' || c = '\t'

end PageMap.Text
