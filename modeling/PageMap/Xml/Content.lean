import PageMap.Text.Hex
import PageMap.Decimal.Basic
import PageMap.Xml.Name
/-! # Character content

Text and attribute values are written with references. A character that comes from a reference is
told apart from one that stands for itself, because only the latter takes part in the treatment of
line ends.
-/

namespace PageMap.Xml

/-- A character of the content. -/
inductive Piece where
  /-- Stands for itself. -/
  | literal (c : Char)
  /-- Given by a reference. -/
  | reference (c : Char)

/-- The entities that need no declaration. -/
def entities : List (String × Char) :=
  [("amp", '&'), ("lt", '<'), ("gt", '>'), ("quot", '"'), ("apos", '\'')]

/-- The largest number that a character reference can write. -/
def maxReference : Nat := Nat.pow 2 32 - 1

/-- The character of a number. A number that is no character gives the replacement character; a
    character that may not stand in a document is refused. -/
def charOfNumber? (n : Nat) : Option Char :=
  if maxReference < n then none
  else
    let c := if n < 0xd800 ∨ (0xdfff < n ∧ n < 0x110000) then Char.ofNat n else '\ufffd'
    if isChar c then some c else none

def hexNumber? (digits : List Char) : Option Nat :=
  if digits.isEmpty then none
  else digits.foldlM (fun n c => (Text.hexValue? c).map fun d => 16 * n + d) 0

def decimalNumber? (digits : List Char) : Option Nat :=
  if digits.isEmpty || !digits.all Char.isDigit then none else some (digitsValue digits)

/-- The character of a reference, given what stands between the ampersand and the semicolon. -/
def referenceChar? : List Char → Option Char
  | '#' :: 'x' :: digits => (hexNumber? digits).bind charOfNumber?
  | '#' :: digits => (decimalNumber? digits).bind charOfNumber?
  | name => entities.lookup (String.ofList name)

/-- The pieces of a text. Within a reference `inside` holds what follows its ampersand, the last
    character first. -/
def piecesFrom? (inside : Option (List Char)) : List Char → Option (List Piece)
  | [] => if inside.isNone then some [] else none
  | c :: cs =>
      match inside with
      | none =>
          if c = '&' then piecesFrom? (some []) cs
          else (piecesFrom? none cs).map fun pieces => .literal c :: pieces
      | some name =>
          if c = ';' then do
            let c ← referenceChar? name.reverse
            return .reference c :: (← piecesFrom? none cs)
          else piecesFrom? (some (c :: name)) cs

def pieces? (cs : List Char) : Option (List Piece) :=
  piecesFrom? none cs

/-- A line end or a tab in an attribute value is a blank; a carriage return in front of a line feed
    is nothing. -/
def attributeChars : List Piece → List Char
  | [] => []
  | .reference c :: rest => c :: attributeChars rest
  | .literal '\r' :: .literal '\n' :: rest => attributeChars (.literal '\n' :: rest)
  | .literal c :: rest =>
      (if c = '\r' || c = '\n' || c = '\t' then ' ' else c) :: attributeChars rest

def attributeValue? (cs : List Char) : Option String :=
  (pieces? cs).map fun pieces => String.ofList (attributeChars pieces)

/-- Appends a character of a text to what was read, which is given the last character first. A
    carriage return becomes a line feed as soon as it is clear what follows it; `last` tells that
    nothing does. -/
def pushText (last : Bool) (c : Char) : List Char → List Char
  | '\r' :: read =>
      if last && c = '\r' then '\n' :: '\n' :: read
      else if c = '\n' then '\n' :: read
      else c :: '\n' :: read
  | read => if last && c = '\r' then '\n' :: read else c :: read

/-- The characters of a text with its line ends made uniform. Characters given by references stand
    as they are, and so does the first literal one behind a reference, which `plain` tells. -/
def textChars (read : List Char) (plain : Bool) : List Piece → List Char
  | [] => read.reverse
  | .reference c :: rest => textChars (c :: read) true rest
  | .literal c :: rest =>
      textChars (if plain then c :: read else pushText rest.isEmpty c read) false rest

/-- A mark stands somewhere in a text. -/
def occurs (mark : List Char) : List Char → Bool
  | [] => mark.isEmpty
  | c :: cs => mark.isPrefixOf (c :: cs) || occurs mark cs

/-- The value of a run of text. The mark that ends a literal section must not stand in it. -/
def textValue? (cs : List Char) : Option (List Char) :=
  if occurs [']', ']', '>'] cs then none
  else (pieces? cs).map (textChars [] false)

/-- The value of a literal section, where nothing is a reference. -/
def literalValue (cs : List Char) : List Char :=
  textChars [] false (cs.map .literal)

end PageMap.Xml
