/-! # Tokens of number patterns

A pattern is read as a list of tokens, each with the byte offset at which it starts. Text in single
or double quotes and a character behind a backslash are literals; so is every character without a
meaning of its own.
-/

namespace PageMap

inductive NumberToken where
  /-- A placeholder that is always filled. -/
  | zero
  /-- A placeholder that is filled where there is a digit. -/
  | digit
  | point
  | comma
  | percent
  | perMille
  | currency
  /-- Sets two sections apart. -/
  | separator
  | literal (text : List Char)
  deriving DecidableEq

/-- A token with the byte offset at which it starts. -/
abbrev PlacedToken := Nat × NumberToken

namespace NumberToken

/-- The token of a character outside quotes and escapes. -/
def ofChar : Char → NumberToken
  | '0' => .zero
  | '#' => .digit
  | '.' => .point
  | ',' => .comma
  | '%' => .percent
  | '‰' => .perMille
  | '¤' => .currency
  | ';' => .separator
  | c => .literal [c]

/-- Stands for a digit. -/
def isPlaceholder : NumberToken → Bool
  | .zero | .digit => true
  | _ => false

/-- What a reader is in the middle of. Quotes and escapes remember where they start. -/
inductive Pending where
  | nothing
  /-- Inside quotes, with the text read so far, the last character first. -/
  | quote (mark : Char) (start : Nat) (text : List Char)
  | escape (start : Nat)

/-- Why a pattern has no tokens. -/
inductive LexicalError where
  | unterminatedQuote (position : Nat)
  | trailingEscape (position : Nat)
  deriving DecidableEq

def scanFrom (position : Nat) : Pending → List Char → Except LexicalError (List PlacedToken)
  | .nothing, [] => .ok []
  | .quote _ start _, [] => .error (.unterminatedQuote start)
  | .escape start, [] => .error (.trailingEscape start)
  | .nothing, c :: cs =>
      let next := position + c.utf8Size
      if c = '\\' then scanFrom next (.escape position) cs
      else if c = '\'' ∨ c = '"' then scanFrom next (.quote c position []) cs
      else do
        let tokens ← scanFrom next .nothing cs
        return (position, ofChar c) :: tokens
  | .quote mark start text, c :: cs =>
      let next := position + c.utf8Size
      if c = mark then do
        let tokens ← scanFrom next .nothing cs
        return (start, .literal text.reverse) :: tokens
      else scanFrom next (.quote mark start (c :: text)) cs
  | .escape start, c :: cs => do
      let tokens ← scanFrom (position + c.utf8Size) .nothing cs
      return (start, .literal [c]) :: tokens

def scan (pattern : String) : Except LexicalError (List PlacedToken) :=
  scanFrom 0 .nothing pattern.toList

/-- The sections between separators, with room for so many more separators and the tokens of the
    current section already read, the last one first. The position of a separator without room is
    the error. -/
def sectionsFrom (room : Nat) (current : List PlacedToken) :
    List PlacedToken → Except Nat (List (List PlacedToken))
  | [] => .ok [current.reverse]
  | (position, .separator) :: tokens =>
      match room with
      | 0 => .error position
      | room + 1 => do
          let sections ← sectionsFrom room [] tokens
          return current.reverse :: sections
  | token :: tokens => sectionsFrom room (token :: current) tokens

/-- The sections of a pattern. There are three at most. -/
def sections (tokens : List PlacedToken) : Except Nat (List (List PlacedToken)) :=
  sectionsFrom 2 [] tokens

end NumberToken

end PageMap
