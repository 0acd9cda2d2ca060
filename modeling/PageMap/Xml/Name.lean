/-! # Characters and names of XML

Which characters a document may hold, which of them begin a name or continue one, and how a name is
divided by its colon.
-/

namespace PageMap.Xml

/-- May stand in a document: no control characters other than tab and line ends. -/
def isChar (c : Char) : Bool :=
  let n := c.toNat
  if n < 0x20 then n = 0x9 || n = 0xa || n = 0xd else n ≠ 0xfffe && n ≠ 0xffff

/-- Separates the parts of a tag. -/
def isSpace (c : Char) : Bool :=
  c = ' ' || c = '\t' || c = '\n' || c = '\r'

def skipSpace (cs : List Char) : List Char :=
  cs.dropWhile isSpace

/-- The characters that can begin a name. -/
def nameStartRanges : List (Nat × Nat) :=
  [(0x3a, 0x3a), (0x41, 0x5a), (0x5f, 0x5f), (0x61, 0x7a), (0xc0, 0xd6), (0xd8, 0xf6),
    (0xf8, 0x2ff), (0x370, 0x37d), (0x37f, 0x1fff), (0x200c, 0x200d), (0x2070, 0x218f),
    (0x2c00, 0x2fef), (0x3001, 0xd7ff), (0xf900, 0xfdcf), (0xfdf0, 0xfffd), (0x10000, 0xeffff)]

/-- The characters that can continue a name but not begin it. -/
def nameMoreRanges : List (Nat × Nat) :=
  [(0x2d, 0x2e), (0x30, 0x39), (0xb7, 0xb7), (0x300, 0x36f), (0x203f, 0x2040)]

def inRanges (ranges : List (Nat × Nat)) (c : Char) : Bool :=
  ranges.any fun (first, last) => first ≤ c.toNat && c.toNat ≤ last

def isNameStart (c : Char) : Bool :=
  inRanges nameStartRanges c

def isNameChar (c : Char) : Bool :=
  isNameStart c || inRanges nameMoreRanges c

/-- A name with the qualifier before its colon. Without a colon the qualifier is empty. -/
structure Name where
  qualifier : String
  base : String
  deriving DecidableEq

namespace Name

/-- Begins as a name has to. -/
def startsWell (cs : List Char) : Bool :=
  cs.head?.any isNameStart

/-- Divides the characters of a name. There may be one colon; the part after it must not be
    empty. -/
def ofChars? (cs : List Char) : Option Name :=
  match cs.splitOn ':' with
  | [base] => if startsWell base then some ⟨"", String.ofList base⟩ else none
  | [qualifier, base] =>
      if (qualifier.isEmpty || startsWell qualifier) && startsWell base then
        some ⟨String.ofList qualifier, String.ofList base⟩
      else none
  | _ => none

/-- Reads the name at the front of a text. -/
def read? (cs : List Char) : Option (Name × List Char) := do
  let (chars, rest) := cs.span isNameChar
  return (← ofChars? chars, rest)

end Name

end PageMap.Xml
