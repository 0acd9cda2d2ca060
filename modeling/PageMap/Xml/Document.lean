import PageMap.Markup.Node
import PageMap.Xml.Scope
/-! # XML documents

A document has one root element; comments and instructions may stand around it and in it and leave
no trace. Qualifiers are dropped from all names. The text of an element is what stands directly in
it, literal sections included.
-/

namespace PageMap.Xml

/-- What stands in an element: its child elements and its characters. -/
structure Content where
  children : List Node
  text : List Char

namespace Content

def empty : Content := ⟨[], []⟩

def consChild (child : Node) (c : Content) : Content :=
  { c with children := child :: c.children }

def consText (text : List Char) (c : Content) : Content :=
  { c with text := text ++ c.text }

end Content

mutual

/-- Reads an element behind its opening bracket. The first argument bounds the steps; two for each
    character are enough. -/
def readElement? : Nat → Scope → List Char → Option (Node × List Char)
  | 0, _, _ => none
  | steps + 1, scope, cs => do
      let (tag, rest) ← StartTag.read? cs
      let (attributes, scope) ← tag.resolve? scope
      let attributes := Dictionary.ofList attributes
      if tag.closed then return (⟨tag.name.base, attributes, [], ""⟩, rest)
      else
        let (content, rest) ← readContent? steps scope rest
        let (name, rest) ← readEndTag? rest
        if name = tag.name then
          return (⟨name.base, attributes, content.children, String.ofList content.text⟩, rest)
        else none

/-- Reads the content of an element and the opening mark of its end tag. -/
def readContent? : Nat → Scope → List Char → Option (Content × List Char)
  | 0, _, _ => none
  | _ + 1, _, [] => none
  | steps + 1, scope, '<' :: rest =>
      match rest with
      | '/' :: rest => some (.empty, rest)
      | '!' :: '-' :: '-' :: rest => do
          readContent? steps scope (← skipComment? rest)
      | '!' :: '[' :: 'C' :: 'D' :: 'A' :: 'T' :: 'A' :: '[' :: rest => do
          let (text, rest) ← readUntil? [']', ']', '>'] rest
          let (content, rest) ← readContent? steps scope rest
          return (content.consText (literalValue text), rest)
      | '?' :: rest => do
          readContent? steps scope (← skipInstruction? rest)
      | rest => do
          let (child, rest) ← readElement? steps scope rest
          let (content, rest) ← readContent? steps scope rest
          return (content.consChild child, rest)
  | steps + 1, scope, cs => do
      let (text, rest) := cs.span (· ≠ '<')
      if !text.all isChar then none
      else
        let text ← textValue? text
        let (content, rest) ← readContent? steps scope rest
        return (content.consText text, rest)

end

/-- Drops space, comments and instructions. The first argument bounds their number. -/
def skipMisc? : Nat → List Char → Option (List Char)
  | 0, _ => none
  | steps + 1, cs =>
      match skipSpace cs with
      | '<' :: '!' :: '-' :: '-' :: rest => do skipMisc? steps (← skipComment? rest)
      | '<' :: '?' :: rest => do skipMisc? steps (← skipInstruction? rest)
      | rest => some rest

/-- Drops the space behind a part of the declaration, which has to be there unless the declaration
    ends. -/
def skipGap? (cs : List Char) : Option (List Char) :=
  if cs.head?.any isSpace then some (skipSpace cs)
  else if ['?', '>'].isPrefixOf cs then some cs
  else none

/-- Drops a part of the declaration that begins with a word. -/
def skipPart? (word : String) (cs : List Char) : Option (List Char) := do
  if word.toList.isPrefixOf cs then
    let (_, rest) ← readAttribute? cs
    skipGap? rest
  else none

/-- Drops a part of the declaration that may be missing. -/
def skipOptionalPart? (word : String) (cs : List Char) : Option (List Char) :=
  if word.toList.isPrefixOf cs then skipPart? word cs else some cs

/-- Drops the declaration behind its opening mark: a version, then perhaps an encoding, then perhaps
    whether the document stands alone. -/
def skipDeclaration? (cs : List Char) : Option (List Char) := do
  let cs ← skipPart? "version" (skipSpace cs)
  let cs ← skipOptionalPart? "encoding" cs
  let cs ← skipOptionalPart? "standalone" cs
  ['?', '>'].isPrefixOf? (skipSpace cs)

/-- Drops the mark of byte order and the declaration, if they are there. -/
def skipOpening? (cs : List Char) : Option (List Char) :=
  let cs := if cs.head? = some '\ufeff' then cs.drop 1 else cs
  match ['<', '?', 'x', 'm', 'l', ' '].isPrefixOf? cs with
  | some rest => skipDeclaration? rest
  | none => some cs

/-- Reads a whole document as the tree of its root. -/
def readDocument? (source : String) : Option Node := do
  let cs := source.toList
  let steps := 2 * cs.length + 2
  let rest ← skipMisc? steps (← skipOpening? cs)
  match rest with
  | '<' :: rest =>
      let (root, rest) ← readElement? steps [] rest
      if (← skipMisc? steps rest).isEmpty then return root else none
  | _ => none

end PageMap.Xml
