import PageMap.Double
import PageMap.NumberFormat.Token
/-! # Sections of number patterns

A section says how a magnitude is scaled, to how many places it is rounded, and between which texts
its digits are placed. Commas before the point group digits in threes if a placeholder follows, and
otherwise divide by a thousand.
-/

namespace PageMap

/-- A part of a section, in the order of output. -/
inductive NumberItem where
  | wholeDigit
  | fractionDigit
  | point
  | currency
  | literal (text : List Char)
  deriving DecidableEq

/-- A compiled section. -/
structure NumberSection where
  items : List NumberItem
  /-- How many items are digits before the point. -/
  wholeCount : Nat
  /-- At least so many digits are written before the point. -/
  minWhole : Nat
  /-- At least so many digits are written after the point. -/
  minFraction : Nat
  /-- How many items are digits after the point; also the places to which is rounded. -/
  maxFraction : Nat
  grouping : Bool
  multiplier : Double
  deriving BEq

/-- Why a section is refused. -/
inductive SectionError where
  | unmatchedGroupSeparator (position : Nat)
  | missingDigitPlaceholder
  deriving DecidableEq

/-- The digits of a rounded number on both sides of the point. -/
structure RoundedDigits where
  whole : List Char
  fraction : List Char
  deriving DecidableEq

def RoundedDigits.isZero (d : RoundedDigits) : Bool :=
  (d.whole ++ d.fraction).all (· = '0')

namespace NumberSection

/-- The tokens before the first point. -/
def wholeTokens (tokens : List PlacedToken) : List NumberToken :=
  (tokens.map (·.2)).takeWhile (· ≠ .point)

/-- The first point and the tokens behind it. -/
def pointTokens (tokens : List PlacedToken) : List NumberToken :=
  (tokens.map (·.2)).dropWhile (· ≠ .point)

/-- What a token puts out before the point. -/
def wholeItem? : NumberToken → Option NumberItem
  | .zero | .digit => some .wholeDigit
  | .percent => some (.literal ['%'])
  | .perMille => some (.literal ['‰'])
  | .currency => some .currency
  | .literal text => some (.literal text)
  | .point => some .point
  | .comma | .separator => none

/-- What a token puts out behind the point. A second point is text. -/
def fractionItem? : NumberToken → Option NumberItem
  | .zero | .digit => some .fractionDigit
  | .point => some (.literal ['.'])
  | token => wholeItem? token

/-- The items of a list of tokens that begins with the first point, if there is one. -/
def pointItems : List NumberToken → List NumberItem
  | [] => []
  | _ :: tokens => .point :: tokens.filterMap fractionItem?

/-- The position of the first comma before the point that has no placeholder to its left. -/
def strayComma? : List PlacedToken → Option Nat
  | [] => none
  | (position, token) :: tokens =>
      if token = .point ∨ token.isPlaceholder then none
      else if token = .comma then some position
      else strayComma? tokens

/-- Some comma has a placeholder to its right. -/
def groups : List NumberToken → Bool
  | [] => false
  | token :: tokens => (token = .comma && tokens.any (·.isPlaceholder)) || groups tokens

/-- Multiplies a factor by those of the tokens before the point, from left to right. -/
def wholeFactor (factor : Double) : List NumberToken → Double
  | [] => factor
  | .comma :: tokens =>
      if tokens.any (·.isPlaceholder) then wholeFactor factor tokens
      else wholeFactor (factor / 1000.0) tokens
  | .percent :: tokens => wholeFactor (factor * 100.0) tokens
  | .perMille :: tokens => wholeFactor (factor * 1000.0) tokens
  | _ :: tokens => wholeFactor factor tokens

/-- Multiplies a factor by those of the tokens behind the point, where commas mean nothing. -/
def fractionFactor (factor : Double) : List NumberToken → Double
  | [] => factor
  | .percent :: tokens => fractionFactor (factor * 100.0) tokens
  | .perMille :: tokens => fractionFactor (factor * 1000.0) tokens
  | _ :: tokens => fractionFactor factor tokens

def placeholders (tokens : List NumberToken) : List NumberToken :=
  tokens.filter (·.isPlaceholder)

/-- Compiles the tokens of a section. Only the leading section needs a placeholder. -/
def compile (leading : Bool) (tokens : List PlacedToken) : Except SectionError NumberSection :=
  match strayComma? tokens with
  | some position => .error (.unmatchedGroupSeparator position)
  | none =>
      let whole := wholeTokens tokens
      let fraction := pointTokens tokens
      let wholeDigits := placeholders whole
      let fractionDigits := placeholders fraction
      if leading && wholeDigits.isEmpty && fractionDigits.isEmpty then
        .error .missingDigitPlaceholder
      else
        .ok
          { items := whole.filterMap wholeItem? ++ pointItems fraction
            wholeCount := wholeDigits.length
            minWhole := (wholeDigits.dropWhile (· ≠ .zero)).length
            minFraction := (fractionDigits.reverse.dropWhile (· ≠ .zero)).length
            maxFraction := fractionDigits.length
            grouping := groups whole
            multiplier := fractionFactor (wholeFactor 1.0 whole) fraction }

/-- Grouped whole digits and up to three places. -/
def decimal : NumberSection :=
  { items := List.replicate 4 .wholeDigit ++ .point :: List.replicate 3 .fractionDigit
    wholeCount := 4
    minWhole := 1
    minFraction := 0
    maxFraction := 3
    grouping := true
    multiplier := 1.0 }

/-- Has a place for a digit. -/
def hasPlaceholders (s : NumberSection) : Bool :=
  0 < s.wholeCount + s.maxFraction

def padLeft (length : Nat) (cs : List Char) : List Char :=
  List.replicate (length - cs.length) '0' ++ cs

def dropZerosRight (cs : List Char) : List Char :=
  (cs.reverse.dropWhile (· = '0')).reverse

/-- The digits of the natural number `n · 10 ^ (-maxFraction)` that the section shows. -/
def place (s : NumberSection) (n : Nat) : RoundedDigits :=
  let all := padLeft (s.maxFraction + 1) (decimalDigits n)
  let split := all.length - s.maxFraction
  let fraction := all.drop split
  { whole := padLeft s.minWhole ((all.take split).dropWhile (· = '0'))
    fraction := fraction.take s.minFraction ++ dropZerosRight (fraction.drop s.minFraction) }

/-- The magnitude scaled so that the last place shown counts ones. -/
def scaled (s : NumberSection) (magnitude : Double) : Double :=
  magnitude * s.multiplier * Double.tenPower s.maxFraction

/-- The digits of a magnitude, unless scaling makes it too large. A half is rounded up. -/
def digits? (s : NumberSection) (magnitude : Double) : Option RoundedDigits :=
  let x := s.scaled magnitude
  if x.isFinite then some (s.place (Double.roundMagnitude x)) else none

/-- Each digit with the comma that follows it, if one does: with grouping, where the number of
    digits to its right is a positive multiple of three. -/
def grouped (grouping : Bool) : List Char → List (List Char)
  | [] => []
  | c :: cs =>
      (if grouping ∧ 0 < cs.length ∧ cs.length % 3 = 0 then [c, ','] else [c]) ::
        grouped grouping cs

/-- The text of items. `whole` holds the digits before the point with their commas, `left` counts
    the placeholders among them that are not yet passed, and `fraction` holds the digits behind the
    point that are not yet written. The first placeholder takes all digits for which there is no
    place to the right. -/
def renderItems (s : NumberSection) (whole : List (List Char)) (currency : List Char) :
    Nat → List Char → List NumberItem → List Char
  | _, _, [] => []
  | left, fraction, .wholeDigit :: items =>
      let start := if left = s.wholeCount then 0 else whole.length - left
      ((whole.take (whole.length - (left - 1))).drop start).flatten ++
        renderItems s whole currency (left - 1) fraction items
  | left, fraction, .point :: items =>
      (if s.wholeCount = 0 then whole.flatten else []) ++
        (if fraction.isEmpty then [] else ['.']) ++
        renderItems s whole currency left fraction items
  | left, fraction, .fractionDigit :: items =>
      fraction.take 1 ++ renderItems s whole currency left (fraction.drop 1) items
  | left, fraction, .currency :: items =>
      currency ++ renderItems s whole currency left fraction items
  | left, fraction, .literal text :: items =>
      text ++ renderItems s whole currency left fraction items

/-- The text of digits, with a sign in front if asked for. -/
def render (s : NumberSection) (digits : RoundedDigits) (negative : Bool) (currency : String) :
    String :=
  String.ofList ((if negative then ['-'] else []) ++
    renderItems s (grouped s.grouping digits.whole) currency.toList s.wholeCount digits.fraction
      s.items)

end NumberSection

end PageMap
