import PageMap.FormatError
import PageMap.NumberFormat.Section
/-! # Number formats

A number pattern has up to three sections: for positive numbers, for negative numbers and for zero.
A section that is missing or empty leaves its numbers to the first one, which then writes a sign.
-/

namespace PageMap

/-- A compiled number pattern with the symbol that stands for its currency signs. -/
structure NumberFormat where
  pattern : String
  /-- The sections in order; `none` for an empty one behind the first. -/
  sections : List (Option NumberSection)
  currency : String
  deriving BEq

namespace NumberFormat

def defaultCurrency : String := "$"

/-- Compiles the section at an index; an empty one behind the first is left out. -/
def compileSection (pattern : String) (index : Nat) (tokens : List PlacedToken) :
    Except FormatError (Option NumberSection) :=
  if tokens.isEmpty && 0 < index then .ok none
  else match NumberSection.compile (index = 0) tokens with
    | .ok s => .ok (some s)
    | .error (.unmatchedGroupSeparator position) =>
        .error (.unmatchedGroupSeparator pattern position)
    | .error .missingDigitPlaceholder => .error (.missingDigitPlaceholder pattern index)

/-- Compiles sections from an index on. -/
def compileSections (pattern : String) (index : Nat) :
    List (List PlacedToken) → Except FormatError (List (Option NumberSection))
  | [] => .ok []
  | tokens :: rest => do
      let first ← compileSection pattern index tokens
      let others ← compileSections pattern (index + 1) rest
      return first :: others

def ofPattern (pattern : String) : Except FormatError NumberFormat :=
  if pattern.isEmpty then .error .emptyPattern
  else match NumberToken.scan pattern with
    | .error (.unterminatedQuote position) => .error (.unterminatedQuote pattern position)
    | .error (.trailingEscape position) => .error (.trailingEscape pattern position)
    | .ok tokens =>
        match NumberToken.sections tokens with
        | .error position => .error (.tooManySections pattern position)
        | .ok sections => do
            let compiled ← compileSections pattern 0 sections
            return ⟨pattern, compiled, defaultCurrency⟩

/-- The format for numbers that have no pattern. -/
def decimal : NumberFormat :=
  ⟨"#,##0.###", [some .decimal], defaultCurrency⟩

def withCurrency (f : NumberFormat) (currency : String) : NumberFormat :=
  { f with currency }

def section? (f : NumberFormat) (index : Nat) : Option NumberSection :=
  (f.sections[index]?).join

/-- The section that a number is written by, and whether it stands for the sign as well. -/
def choose (f : NumberFormat) (positive : NumberSection) (x : Double) : NumberSection × Bool :=
  match f.section? 1 with
  | some negative => if x < 0.0 then (negative, true) else (positive, false)
  | none => (positive, false)

/-- The text of a number. A number that its own section would show as zero goes to the section for
    zero. A number that is not finite or becomes too large has its plain text. -/
def format (f : NumberFormat) (x : Double) : String :=
  match f.section? 0 with
  | none => x.text
  | some positive =>
      if !x.isFinite then x.text
      else
        let magnitude := x.abs
        let (chosen, ownSign) := f.choose positive x
        match chosen.digits? magnitude with
        | none => x.text
        | some digits =>
            let showsZero := if chosen.hasPlaceholders then digits.isZero else magnitude == 0.0
            match f.section? 2 with
            | some zero =>
                if showsZero then
                  match zero.digits? magnitude with
                  | some zeroDigits => zero.render zeroDigits false f.currency
                  | none => x.text
                else chosen.render digits (x < 0.0 && !ownSign) f.currency
            | none => chosen.render digits (x < 0.0 && !ownSign && !showsZero) f.currency

end NumberFormat

end PageMap
