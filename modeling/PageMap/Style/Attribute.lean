import PageMap.Decimal.Basic
import PageMap.Style.Value
import PageMap.Text.Blank
import PageMap.Text.Case
/-! # Reading attributes

The raw text of an attribute is read from the front; a reader gives a value and what follows it, and
the whole text has to be used up. Keywords are matched in a fixed order and without regard to case.
The first one that begins the text is taken and not reconsidered.

Letters are compared by their lowercase forms, but a keyword is cut off by its length in bytes. A
Kelvin sign is a `k` in lowercase and takes three bytes: where it stands for the last letter of
`black`, the cut falls inside of it and reading crashes. Only font weights can come to that. A crash
ends the program, so it is an outcome of its own and no way of refusing a text.
-/

namespace PageMap

/-- Why the text of an attribute gives no value: it does not begin with one, or something follows,
    or reading it crashes. -/
inductive AttributeError where
  | malformed
  | trailing (rest input : String)
  | crash
  deriving DecidableEq

/-- The message about what follows a value. -/
def AttributeError.message? : AttributeError → Option String
  | .malformed | .crash => none
  | .trailing rest input =>
      some ("Parse error: unexpected trailing input '" ++ rest ++ "' in '" ++ input ++ "'")

/-- A text that is no value of a style key. -/
structure InvalidValue where
  property : String
  value : String
  deriving DecidableEq

def InvalidValue.message (e : InvalidValue) : String :=
  "Invalid value for '" ++ e.property ++ "': " ++ e.value

/-- Why a style key gets no value from a text. -/
inductive StyleError where
  | invalid (cause : InvalidValue)
  /-- Reading the text crashes. -/
  | crash
  deriving DecidableEq

namespace Attribute

/-- Reads a value at the front of a text. -/
abbrev Reader (α : Type) := List Char → Except AttributeError (α × List Char)

def isSpace (c : Char) : Bool :=
  c = ' ' || c = '\t' || c = '\r' || c = '\n'

def skipSpace (cs : List Char) : List Char :=
  cs.dropWhile isSpace

/-- A reader that refuses a text or gives a value, and never crashes. -/
def Reader.plain {α : Type} (read? : List Char → Option (α × List Char)) : Reader α := fun cs =>
  match read? cs with
  | some found => .ok found
  | none => .error .malformed

/-- Reads with the second reader what the first one refuses. -/
def Reader.or {α : Type} (first second : Reader α) : Reader α := fun cs =>
  match first cs with
  | .error .malformed => second cs
  | result => result

/-- Allows space around a value. -/
def Reader.spaced {α : Type} (read : Reader α) : Reader α := fun cs => do
  let (value, rest) ← read (skipSpace cs)
  return (value, skipSpace rest)

/-- Reads a whole text. -/
def Reader.whole {α : Type} (read : Reader α) (raw : String) : Except AttributeError α :=
  match read raw.toList with
  | .ok (value, []) => .ok value
  | .ok (_, rest) => .error (.trailing (String.ofList rest) raw)
  | .error e => .error e

/-- A word and a text are the same but for case, as far as both of them reach. -/
def agree : List Char → List Char → Bool
  | w :: word, c :: cs => Text.lowerChar c = Text.lowerChar w && agree word cs
  | _, _ => true

def byteCount : List Char → Nat
  | [] => 0
  | c :: cs => c.utf8Size + byteCount cs

/-- What follows the first bytes of a text, unless their end is inside of a character. -/
def afterBytes? : Nat → List Char → Option (List Char)
  | 0, cs => some cs
  | _ + 1, [] => none
  | n + 1, c :: cs => if c.utf8Size ≤ n + 1 then afterBytes? (n + 1 - c.utf8Size) cs else none

/-- Continues after a word if the text begins with it in any case. -/
def afterWord (word cs : List Char) : Except AttributeError (List Char) :=
  if agree word cs ∧ byteCount word ≤ byteCount cs then
    match afterBytes? (byteCount word) cs with
    | some rest => .ok rest
    | none => .error .crash
  else .error .malformed

/-- Keywords with their values, in the order in which they are tried. -/
abbrev Keywords (α : Type) := List (String × α)

/-- Reads the first keyword that begins the text. -/
def Keywords.read {α : Type} : Keywords α → Reader α
  | [] => fun _ => .error .malformed
  | (word, value) :: others =>
      Reader.or (fun cs => do return (value, ← afterWord word.toList cs)) (Keywords.read others)

/-- A decimal number with space around it. Its nearest single has to be finite. -/
def number : Reader Single :=
  Reader.spaced <| .plain fun cs => do
    let (d, rest) ← Decimal.read? cs
    let x := Single.ofDecimal d
    if x.isFinite then some (x, rest) else none

/-- A number and perhaps one of some units behind it. Without a unit `absent` is given. -/
def numberWithUnit {α : Type} (units : Keywords α) (absent : α) : Reader (Single × α) :=
    fun cs => do
  let (x, rest) ← number cs
  let (unit, rest) ← (Reader.spaced units.read).or (fun rest => .ok (absent, rest)) rest
  return ((x, unit), rest)

/-- The units of lengths on a page. -/
inductive LengthUnit where
  | millimetre
  | point
  deriving DecidableEq

/-- The units that a kind of length admits. Only font sizes may be given in points. -/
def lengthUnits : ScaleKind → Keywords LengthUnit
  | .fontSize => [("mm", .millimetre), ("pt", .point)]
  | _ => [("mm", .millimetre)]

def length (scales : Scales) (kind : ScaleKind) (raw : String) : Except AttributeError Single := do
  let (x, unit) ← (numberWithUnit (lengthUnits kind) .millimetre).whole raw
  match unit with
  | .millimetre => return scales.apply kind x
  | .point => return x * scales.ofKind kind

def angle (raw : String) : Except AttributeError Single :=
  ((numberWithUnit [("deg", ())] ()).whole raw).map (·.1)

/-- Reads a value of a list of keywords. -/
def keyword {α : Type} (words : Keywords α) (raw : String) : Except AttributeError α :=
  (Reader.spaced words.read).whole raw

def horizontalWords : Keywords HorizontalAlignment :=
  [("leading", .leading), ("left", .leading), ("center", .center), ("trailing", .trailing),
    ("right", .trailing), ("justify", .fill), ("stretch", .fill), ("fill", .fill)]

def verticalWords : Keywords VerticalAlignment :=
  [("top", .top), ("center", .center), ("bottom", .bottom), ("stretch", .fill), ("fill", .fill)]

/-- The keywords of wrapping. The longest comes first, as `wrap` begins it. -/
def wrappingWords : Keywords Wrapping :=
  [("wrapwithoverflow", .wrapWithOverflow), ("nowrap", .noWrap), ("wrap", .wrap)]

def fontStyleWords : Keywords FontStyle :=
  [("normal", .normal), ("italic", .italic), ("oblique", .oblique)]

def fontStretchWords : Keywords FontStretch :=
  [("ultracondensed", .ultraCondensed), ("extracondensed", .extraCondensed),
    ("semicondensed", .semiCondensed), ("condensed", .condensed), ("normal", .normal),
    ("medium", .normal), ("semiexpanded", .semiExpanded), ("extraexpanded", .extraExpanded),
    ("ultraexpanded", .ultraExpanded), ("expanded", .expanded)]

def fontWeightWords : Keywords FontWeight :=
  [("thin", .thin), ("extralight", .extraLight), ("ultralight", .extraLight), ("light", .light),
    ("normal", .normal), ("regular", .normal), ("medium", .medium), ("semibold", .semiBold),
    ("demibold", .semiBold), ("extrabold", .extraBold), ("ultrabold", .extraBold), ("bold", .bold),
    ("extrablack", .extraBlack), ("ultrablack", .extraBlack), ("black", .black), ("heavy", .black)]

def boolWords : Keywords Bool :=
  [("true", true), ("yes", true), ("1", true), ("false", false), ("no", false), ("0", false)]

/-- The number of a font weight, from 1 to 999. -/
def weightNumber? (cs : List Char) : Option (FontWeight × List Char) :=
  let (digits, rest) := cs.span Char.isDigit
  let n := digitsValue digits
  if 1 ≤ n ∧ n ≤ 999 then some (.ofValue n, rest) else none

/-- Reads a font weight, by name or by number. -/
def fontWeight (raw : String) : Except AttributeError FontWeight :=
  (Reader.spaced (fontWeightWords.read.or (.plain weightNumber?))).whole raw

def bool (raw : String) : Except AttributeError Bool :=
  keyword boolWords raw

/-- A run of characters that are not blank. -/
def solidRun? (cs : List Char) : Option (String × List Char) :=
  match cs.span fun c => !Text.isBlank c with
  | ([], _) => none
  | (run, rest) => some (String.ofList run, rest)

def keyPath (raw : String) : Except AttributeError String :=
  (Reader.plain solidRun?).spaced.whole raw

end Attribute

/-- Reads the raw text of a style key. Colors are looked up by `color`, which is given the text
    without the blanks around it. -/
def StyleKey.read (key : StyleKey) (scales : Scales) (color : String → Option Color)
    (raw : String) : Except StyleError StyleValue :=
  let invalid : StyleError := .invalid ⟨key.name, raw⟩
  let check (result : Except AttributeError StyleValue) : Except StyleError StyleValue :=
    result.mapError fun e => if e = .crash then .crash else invalid
  match key.kind with
  | .length kind => check ((Attribute.length scales kind raw).map .length)
  | .angle => check ((Attribute.angle raw).map .angle)
  | .color =>
      match color (Text.trim raw) with
      | some c => .ok (.color c)
      | none => .error invalid
  | .horizontalAlignment =>
      check ((Attribute.keyword Attribute.horizontalWords raw).map .horizontalAlignment)
  | .verticalAlignment =>
      check ((Attribute.keyword Attribute.verticalWords raw).map .verticalAlignment)
  | .wrapping => check ((Attribute.keyword Attribute.wrappingWords raw).map .wrapping)
  | .fontFamily =>
      let family := Text.trim raw
      if family.isEmpty then .error invalid else .ok (.fontFamily family)
  | .fontStretch => check ((Attribute.keyword Attribute.fontStretchWords raw).map .fontStretch)
  | .fontStyle => check ((Attribute.keyword Attribute.fontStyleWords raw).map .fontStyle)
  | .fontWeight => check ((Attribute.fontWeight raw).map .fontWeight)
  | .keyPath => check ((Attribute.keyPath raw).map .keyPath)

end PageMap
