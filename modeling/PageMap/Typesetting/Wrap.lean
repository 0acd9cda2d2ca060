import PageMap.Single
import PageMap.Text.Blank
/-! # Breaking paragraphs into lines

Every character is taken to have the same width. Lines are filled greedily: a word goes on the line
that is open if it fits there. A word that is too wide for any line may be cut into pieces.
-/

namespace PageMap

/-- The room on a line. -/
structure Measure where
  /-- The width of one character. -/
  advance : Single
  /-- The greatest width of a line. -/
  limit : Single
  /-- Words that are too wide are cut. -/
  cuts : Bool

/-- The width of some characters that are equally wide. -/
def runWidth (advance : Single) (cs : List Char) : Single :=
  Single.ofNat cs.length * advance

namespace Measure

def width (m : Measure) (cs : List Char) : Single :=
  runWidth m.advance cs

/-- A word fits behind what stands on a line. -/
def fits (m : Measure) (line word : List Char) : Bool :=
  m.width line + m.advance + m.width word ≤ m.limit

/-- A word may go on the open line. The first word of a line need not fit if words are not cut. -/
def admits (m : Measure) (line word : List Char) : Bool :=
  if line.isEmpty then m.width word ≤ m.limit || !m.cuts else m.fits line word

/-- The number of characters in a piece of a word. -/
def pieceLength (m : Measure) : Nat :=
  max 1 (m.limit / m.advance).toCount

/-- Cuts characters into pieces of one length. The last piece has what is left. What was read of the
    current piece is in `piece`, the last character first. -/
def piecesFrom (length : Nat) (piece : List Char) : List Char → List (List Char)
  | [] => [piece.reverse]
  | c :: cs =>
      if piece.length < length then piecesFrom length (c :: piece) cs
      else piece.reverse :: piecesFrom length [c] cs

/-- The pieces in which a word is set: itself, unless it is too wide and words are cut. -/
def pieces (m : Measure) (word : List Char) : List (List Char) :=
  if m.cuts && m.limit < m.width word then piecesFrom m.pieceLength [] word else [word]

def append (line word : List Char) : List Char :=
  if line.isEmpty then word else line ++ ' ' :: word

/-- Sets words on lines, `line` being the one that is open. -/
def fill (m : Measure) (line : List Char) : List (List Char) → List (List Char)
  | [] => [line]
  | word :: words =>
      if m.admits line word then m.fill (append line word) words
      else
        let pieces := m.pieces word
        (if line.isEmpty then [] else [line]) ++ pieces.dropLast ++
          m.fill (pieces.getLastD []) words

/-- The lines of a paragraph. One without words is an empty line. -/
def wrap (m : Measure) (paragraph : List Char) : List (List Char) :=
  m.fill [] (Text.words paragraph)

end Measure

end PageMap
