import PageMap.Json.Basic
import PageMap.Text.Blank
/-! # Key paths into data

A key path names a scalar in a JSON value. It is written with dots and brackets, as in
`lines[0].amount`, or as a pointer such as `/lines/0/amount`. Both spellings are first turned into a
list of segments; the descent along the segments is the same, except for how an index is written.
-/

namespace PageMap.Json

inductive Scalar where
  | text (value : String)
  | number (value : Double)
  | flag (value : Bool)

def Scalar.display : Scalar → String
  | .text s => s
  | .number x => x.text
  | .flag true => "true"
  | .flag false => "false"

/-- The scalar of a value. Nulls, lists and objects are none. -/
def scalar? : Json → Option Scalar
  | .string s => some (.text s)
  | .number n => n.value?.map fun v => .number v.toDouble
  | .bool b => some (.flag b)
  | _ => none

/-- How the segments of a path are read: `loose` admits a plus sign and leading zeros in an
    index. -/
inductive IndexForm where
  | loose
  | strict

/-- The largest index that can be written. -/
def maxIndex : Nat := Nat.pow 2 64 - 1

/-- The index that a run of digits writes. -/
def digitsIndex? (digits : List Char) : Option Nat :=
  if digits.isEmpty || !digits.all Char.isDigit || maxIndex < digitsValue digits then none
  else some (digitsValue digits)

def IndexForm.index? : IndexForm → List Char → Option Nat
  | .loose, '+' :: digits => digitsIndex? digits
  | .loose, digits => digitsIndex? digits
  | .strict, ['0'] => some 0
  | .strict, '0' :: _ => none
  | .strict, digits => digitsIndex? digits

/-- One step down: the member of an object or the item of a list. -/
def step? (form : IndexForm) (segment : List Char) : Json → Option Json
  | .object members => (Json.object members).member? (String.ofList segment)
  | .array items => (form.index? segment).bind fun i => items[i]?
  | _ => none

/-- The value reached along the segments of a path. -/
def descend? (form : IndexForm) (j : Json) : List (List Char) → Option Json
  | [] => some j
  | segment :: segments => (j.step? form segment).bind fun j => j.descend? form segments

/-- The segments of a path with dots and brackets: an opening bracket separates like a dot, a
    closing one is dropped, and empty segments do not count. -/
def dottedSegments (path : List Char) : List (List Char) :=
  let plain := (path.map fun c => if c = '[' then '.' else c).filter (· ≠ ']')
  (plain.splitOn '.').filter fun segment => !segment.isEmpty

/-- Replaces each tilde with a given digit behind it by a character. -/
def replaceEscape (digit image : Char) : List Char → List Char
  | '~' :: c :: cs =>
      if c = digit then image :: replaceEscape digit image cs
      else '~' :: replaceEscape digit image (c :: cs)
  | c :: cs => c :: replaceEscape digit image cs
  | [] => []

/-- The segments of a pointer, behind its first slash. `~1` stands for a slash and `~0` for a
    tilde. -/
def pointerSegments (path : List Char) : List (List Char) :=
  (path.splitOn '/').map fun segment =>
    replaceEscape '0' '~' (replaceEscape '1' '/' segment)

/-- The value that a key path names. A path of blanks or a single dot names the whole. -/
def lookup? (path : String) (j : Json) : Option Json :=
  match Text.trimBy Text.isBlank path.toList with
  | [] => some j
  | ['.'] => some j
  | '/' :: pointer => j.descend? .strict (pointerSegments pointer)
  | dotted => j.descend? .loose (dottedSegments dotted)

/-- The scalar that a key path names. -/
def resolve? (path : String) (j : Json) : Option Scalar :=
  (j.lookup? path).bind scalar?

end PageMap.Json
