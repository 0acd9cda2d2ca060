import PageMap.Xml.Content
/-! # Tags, comments and instructions

The parts of a document that begin with a bracket.
-/

namespace PageMap.Xml

/-- What stands before the first occurrence of a mark, and what follows the mark. All characters
    before it have to be admitted in a document. -/
def readUntil? (mark : List Char) : List Char → Option (List Char × List Char)
  | [] => none
  | c :: cs =>
      match mark.isPrefixOf? (c :: cs) with
      | some rest => some ([], rest)
      | none =>
          if isChar c then (readUntil? mark cs).map fun (part, rest) => (c :: part, rest) else none

/-- Drops a comment behind its opening mark. Two hyphens must not stand in it, nor one at its
    end. -/
def skipComment? (cs : List Char) : Option (List Char) := do
  let (text, rest) ← readUntil? ['-', '-', '>'] cs
  if occurs ['-', '-'] text || text.getLast? == some '-' then none else some rest

/-- Drops an instruction behind its opening mark. The declaration of the document is none. -/
def skipInstruction? (cs : List Char) : Option (List Char) := do
  if ['x', 'm', 'l', ' '].isPrefixOf cs then none
  else
    let (target, rest) := cs.span isNameChar
    if Name.startsWell target then
      let (_, rest) ← readUntil? ['?', '>'] rest
      return rest
    else none

/-- Reads a name, an equals sign and a value in quotes of either kind, which is not decoded yet. -/
def readAttribute? (cs : List Char) : Option ((Name × List Char) × List Char) := do
  let (name, rest) ← Name.read? cs
  match skipSpace rest with
  | '=' :: rest =>
      match skipSpace rest with
      | quote :: rest =>
          if quote = '"' ∨ quote = '\'' then
            let (value, rest) ← readUntil? [quote] rest
            if value.contains '<' then none else return ((name, value), rest)
          else none
      | [] => none
  | _ => none

structure StartTag where
  name : Name
  /-- The attributes in order, with their values decoded. -/
  attributes : List (Name × String)
  /-- The element ends with its tag. -/
  closed : Bool

/-- Reads attributes and the end of a start tag. Every attribute has space before it. The first
    argument bounds the number of attributes; one for each character is enough. -/
def readAttributes? : Nat → List Char → Option ((List (Name × String) × Bool) × List Char)
  | 0, _ => none
  | steps + 1, cs =>
      match skipSpace cs with
      | '>' :: rest => some (([], false), rest)
      | '/' :: '>' :: rest => some (([], true), rest)
      | front =>
          if cs.head?.any isSpace then do
            let ((name, value), rest) ← readAttribute? front
            let value ← attributeValue? value
            let ((attributes, closed), rest) ← readAttributes? steps rest
            return (((name, value) :: attributes, closed), rest)
          else none

namespace StartTag

def read? (cs : List Char) : Option (StartTag × List Char) := do
  let (name, rest) ← Name.read? cs
  let ((attributes, closed), rest) ← readAttributes? (rest.length + 1) rest
  return (⟨name, attributes, closed⟩, rest)

end StartTag

/-- Reads the name of an end tag behind its opening mark, and the bracket that closes it. -/
def readEndTag? (cs : List Char) : Option (Name × List Char) := do
  let (name, rest) ← Name.read? cs
  match skipSpace rest with
  | '>' :: rest => return (name, rest)
  | _ => none

end PageMap.Xml
