import PageMap.Json.Fields
import PageMap.Text.Blank
import PageMap.Text.Hex
/-! # Colors

A color has three channels and an opacity. It is written in hexadecimal as `#RGB`, `#RRGGBB` or
`#AARRGGBB`, or in JSON as such a text or as an object of its channels.
-/

namespace PageMap

/-- A color. An opacity of one is solid. -/
structure Color where
  red : UInt8
  green : UInt8
  blue : UInt8
  alpha : Single
  deriving BEq

inductive Channel where
  | alpha
  | red
  | green
  | blue
  deriving DecidableEq

def Channel.name : Channel → String
  | .alpha => "alpha"
  | .red => "red"
  | .green => "green"
  | .blue => "blue"

/-- Why a text is no color in hexadecimal. -/
inductive HexError where
  | missingHash (text : String)
  | notAscii (text : String)
  | badComponent (channel : Channel)
  | badLength (length : Nat)
  deriving DecidableEq

def HexError.message : HexError → String
  | .missingHash text => "Color must start with #, got: " ++ text
  | .notAscii text => "Invalid hex color: " ++ text
  | .badComponent channel =>
      "Invalid " ++ channel.name ++ " component: invalid digit found in string"
  | .badLength length =>
      "Invalid hex color length: expected 3, 6 or 8, got " ++ toString length

namespace Color

def rgb (red green blue : UInt8) : Color :=
  ⟨red, green, blue, 1.0⟩

def black : Color := rgb 0 0 0

def white : Color := rgb 255 255 255

def transparent : Color := ⟨0, 0, 0, 0.0⟩

/-- Solid gray. -/
def gray (value : UInt8) : Color :=
  rgb value value value

/-- The same color with an opacity between nothing and one. -/
def withAlpha (c : Color) (alpha : Single) : Color :=
  { c with alpha := alpha.clamp 0.0 1.0 }

def isTransparent (c : Color) : Bool :=
  c.alpha ≤ 0.0

/-- The value of two hexadecimal digits. The first may be a plus sign instead. -/
def hexByte (channel : Channel) (high low : Char) : Except HexError UInt8 :=
  let digits := do
    let high ← if high = '+' then some 0 else Text.hexValue? high
    return 16 * high + (← Text.hexValue? low)
  match digits with
  | some n => .ok n.toUInt8
  | none => .error (.badComponent channel)

def ofHexDigits : List Char → Except HexError Color
  | [r, g, b] => do
      let red ← hexByte .red r r
      let green ← hexByte .green g g
      let blue ← hexByte .blue b b
      return rgb red green blue
  | [r, r', g, g', b, b'] => do
      let red ← hexByte .red r r'
      let green ← hexByte .green g g'
      let blue ← hexByte .blue b b'
      return rgb red green blue
  | [a, a', r, r', g, g', b, b'] => do
      let alpha ← hexByte .alpha a a'
      let red ← hexByte .red r r'
      let green ← hexByte .green g g'
      let blue ← hexByte .blue b b'
      return ⟨red, green, blue, Single.ofNat alpha.toNat / 255.0⟩
  | digits => .error (.badLength digits.length)

def ofHex (text : String) : Except HexError Color :=
  let cs := Text.trimBy Text.isBlank text.toList
  match cs with
  | '#' :: digits =>
      if digits.all fun c => c.toNat < 0x80 then ofHexDigits digits
      else .error (.notAscii (String.ofList cs))
  | _ => .error (.missingHash (String.ofList cs))

/-- The JSON object of a color. Full opacity is left out. -/
def toJson (c : Color) : Json :=
  let channels :=
    [("r", Json.ofNat c.red.toNat), ("g", Json.ofNat c.green.toNat), ("b", Json.ofNat c.blue.toNat)]
  .object (if c.alpha == 1.0 then channels else channels ++ [("a", Json.ofSingle c.alpha)])

def maxChannel : Nat := 255

/-- Reads a color from JSON: a text in hexadecimal, or an object with the channels and perhaps the
    opacity. All parts of the object are valued, at most `depth` deep. -/
def ofWritten? (depth : Nat) (w : Json.Written) : Option Color :=
  match w with
  | .string s => do (ofHex (← s)).toOption
  | .object members => do
      let _ ← w.value? depth
      let [r, g, b, a] ← Json.Written.knownFields? ["r", "g", "b", "a"] members | none
      let red ← (← r).natural? maxChannel
      let green ← (← g).natural? maxChannel
      let blue ← (← b).natural? maxChannel
      let alpha ← Json.Written.fieldOr 1.0 Json.Written.single? a
      return ⟨red.toUInt8, green.toUInt8, blue.toUInt8, alpha⟩
  | _ => none

end Color

example : (Color.ofHex " #f00 ").toOption.map (·.red) = some 255 := by decide +kernel
example : (Color.ofHex "#12345").toOption.isNone := by decide +kernel

end PageMap
