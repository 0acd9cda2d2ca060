import PageMap.Json.Basic
/-! # JSON text

Reading goes in two steps. The first takes a text apart and only asks that it is well formed. The
second gives the parts their values, and fails where a number is too large, where an escape names
half of a surrogate pair or where lists lie too deep. A part that nobody asks for is never valued,
so it cannot fail.
-/

namespace PageMap.Json

/-- A JSON text taken apart. A text in quotes is `none` if half a surrogate pair is in it. -/
inductive Written where
  | null
  | bool (value : Bool)
  | number (value : Number)
  | string (value : Option String)
  | array (items : List Written)
  | object (members : List (Option String × Written))

/-- Separates the parts of a JSON text. -/
def isSpace (c : Char) : Bool :=
  c = ' ' || c = '\n' || c = '\t' || c = '\r'

def skipSpace (cs : List Char) : List Char :=
  cs.dropWhile isSpace

/-- The value of four hexadecimal digits. -/
def hexFour? (a b c d : Char) : Option Nat := do
  let (a, b) := (← Text.hexValue? a, ← Text.hexValue? b)
  let (c, d) := (← Text.hexValue? c, ← Text.hexValue? d)
  return ((a * 16 + b) * 16 + c) * 16 + d

def isHighHalf (n : Nat) : Bool := 0xd800 ≤ n && n < 0xdc00

def isLowHalf (n : Nat) : Bool := 0xdc00 ≤ n && n < 0xe000

/-- The character of an escape letter other than `u`. -/
def escapeLetter? : Char → Option Char
  | '"' => some '"'
  | '\\' => some '\\'
  | '/' => some '/'
  | 'b' => some '\x08'
  | 'f' => some '\x0c'
  | 'n' => some '\n'
  | 'r' => some '\r'
  | 't' => some '\t'
  | _ => none

/-- What has been read of a quoted text: its characters, the last one first, and the first half of
    a surrogate pair that waits for the second. `broken` tells that a half stood alone. -/
structure QuoteState where
  read : List Char
  half : Option Nat
  broken : Bool

namespace QuoteState

def start : QuoteState := ⟨[], none, false⟩

/-- Notes that a waiting half was not completed. -/
def settle (s : QuoteState) : QuoteState :=
  ⟨s.read, none, s.broken || s.half.isSome⟩

def push (s : QuoteState) (c : Char) : QuoteState :=
  let s := s.settle
  ⟨c :: s.read, none, s.broken⟩

/-- Appends the character of a numbered escape, or combines two halves. -/
def pushCode (s : QuoteState) (n : Nat) : QuoteState :=
  match s.half with
  | some high =>
      if isLowHalf n then
        ⟨Char.ofNat (0x10000 + (high - 0xd800) * 0x400 + (n - 0xdc00)) :: s.read, none, s.broken⟩
      else if isHighHalf n then ⟨s.read, some n, true⟩
      else ⟨Char.ofNat n :: s.read, none, true⟩
  | none =>
      if isHighHalf n then ⟨s.read, some n, s.broken⟩
      else if isLowHalf n then ⟨s.read, none, true⟩
      else ⟨Char.ofNat n :: s.read, none, s.broken⟩

/-- The text read, unless a half stood alone. -/
def finish (s : QuoteState) : Option String :=
  let s := s.settle
  if s.broken then none else some (String.ofList s.read.reverse)

end QuoteState

/-- Reads a quoted text behind its opening quote. -/
def readQuoted? (s : QuoteState) : List Char → Option (Option String × List Char)
  | '"' :: rest => some (s.finish, rest)
  | '\\' :: 'u' :: a :: b :: c :: d :: rest =>
      match hexFour? a b c d with
      | some n => readQuoted? (s.pushCode n) rest
      | none => none
  | '\\' :: c :: rest =>
      match escapeLetter? c with
      | some c => readQuoted? (s.push c) rest
      | none => none
  | c :: rest => if c.toNat < 0x20 then none else readQuoted? (s.push c) rest
  | [] => none

/-- Reads the digits of a fraction behind its point; there must be some. -/
def readFraction? : List Char → Option (List Char × List Char)
  | '.' :: rest =>
      match rest.span Char.isDigit with
      | ([], _) => none
      | (digits, rest) => some (digits, rest)
  | rest => some ([], rest)

/-- Reads an exponent, if there is one. -/
def readExponent? : List Char → Option (Option Int × List Char)
  | c :: cs =>
      if c = 'e' ∨ c = 'E' then do
        let (exponent, rest) ← Decimal.readExponent? (c :: cs)
        return (some exponent, rest)
      else some (none, c :: cs)
  | [] => some (none, [])

/-- Reads a number behind its sign. A leading zero stands alone. -/
def readNumber? (negative : Bool) (cs : List Char) : Option (Number × List Char) := do
  let (whole, rest) := cs.span Char.isDigit
  if whole.isEmpty || (whole.length > 1 && whole.head? == some '0') then none
  else
    let (fraction, rest) ← readFraction? rest
    let (exponent, rest) ← readExponent? rest
    return (⟨negative, whole, fraction, exponent⟩, rest)

def readScalar? : List Char → Option (Written × List Char)
  | '"' :: rest => (readQuoted? .start rest).map fun (s, rest) => (.string s, rest)
  | '-' :: rest => (readNumber? true rest).map fun (n, rest) => (.number n, rest)
  | 'n' :: rest => (['u', 'l', 'l'].isPrefixOf? rest).map fun rest => (.null, rest)
  | 't' :: rest => (['r', 'u', 'e'].isPrefixOf? rest).map fun rest => (.bool true, rest)
  | 'f' :: rest => (['a', 'l', 's', 'e'].isPrefixOf? rest).map fun rest => (.bool false, rest)
  | rest => (readNumber? false rest).map fun (n, rest) => (.number n, rest)

/-- Reads the name of a member and the colon behind it. -/
def readName? (cs : List Char) : Option (Option String × List Char) :=
  match skipSpace cs with
  | '"' :: rest => do
      let (name, rest) ← readQuoted? .start rest
      match skipSpace rest with
      | ':' :: rest => return (name, rest)
      | _ => none
  | _ => none

mutual

/-- Reads one value. The first argument bounds the steps; two for each character are enough. -/
def readValue? : Nat → List Char → Option (Written × List Char)
  | 0, _ => none
  | steps + 1, cs =>
      match skipSpace cs with
      | '[' :: rest =>
          match skipSpace rest with
          | ']' :: rest => some (.array [], rest)
          | rest => do
              let (items, rest) ← readItems? steps rest
              return (.array items, rest)
      | '{' :: rest =>
          match skipSpace rest with
          | '}' :: rest => some (.object [], rest)
          | rest => do
              let (members, rest) ← readMembers? steps rest
              return (.object members, rest)
      | rest => readScalar? rest

/-- Reads the items of a list that has at least one, and the bracket that closes it. -/
def readItems? : Nat → List Char → Option (List Written × List Char)
  | 0, _ => none
  | steps + 1, cs => do
      let (item, rest) ← readValue? steps cs
      match skipSpace rest with
      | ',' :: rest =>
          let (items, rest) ← readItems? steps rest
          return (item :: items, rest)
      | ']' :: rest => return ([item], rest)
      | _ => none

/-- Reads the members of an object that has at least one, and the brace that closes it. -/
def readMembers? : Nat → List Char → Option (List (Option String × Written) × List Char)
  | 0, _ => none
  | steps + 1, cs => do
      let (name, rest) ← readName? cs
      let (value, rest) ← readValue? steps rest
      match skipSpace rest with
      | ',' :: rest =>
          let (members, rest) ← readMembers? steps rest
          return ((name, value) :: members, rest)
      | '}' :: rest => return ([(name, value)], rest)
      | _ => none

end

def Written.ofText? (text : String) : Option Written :=
  let cs := text.toList
  match readValue? (2 * cs.length + 2) cs with
  | some (w, rest) => if (skipSpace rest).isEmpty then some w else none
  | none => none

namespace Written

/-- How many lists and objects may lie within each other. -/
def maxDepth : Nat := 127

mutual

/-- The value of a text, with at most `depth` lists and objects within each other. -/
def value? (depth : Nat) : Written → Option Json
  | .null => some .null
  | .bool b => some (.bool b)
  | .number n => n.value?.map fun _ => .number n
  | .string s => s.map .string
  | .array items =>
      match depth with
      | 0 => none
      | depth + 1 => (values? depth items).map .array
  | .object members =>
      match depth with
      | 0 => none
      | depth + 1 => (members? depth members).map .object

def values? (depth : Nat) : List Written → Option (List Json)
  | [] => some []
  | item :: items => do
      let value ← item.value? depth
      let values ← values? depth items
      return value :: values

def members? (depth : Nat) : List (Option String × Written) → Option (List (String × Json))
  | [] => some []
  | member :: members => do
      let value ← namedValue? depth member
      let values ← members? depth members
      return value :: values

def namedValue? (depth : Nat) : Option String × Written → Option (String × Json)
  | (some name, value) => (value.value? depth).map fun value => (name, value)
  | (none, _) => none

end

mutual

/-- The text taken apart that writes a value. -/
def ofValue : Json → Written
  | .null => .null
  | .bool b => .bool b
  | .number n => .number n
  | .string s => .string (some s)
  | .array items => .array (ofValues items)
  | .object members => .object (ofMembers members)

def ofValues : List Json → List Written
  | [] => []
  | item :: items => ofValue item :: ofValues items

def ofMembers : List (String × Json) → List (Option String × Written)
  | [] => []
  | member :: members => ofMember member :: ofMembers members

def ofMember : String × Json → Option String × Written
  | (name, value) => (some name, ofValue value)

end

end Written

def ofText? (text : String) : Option Json := do
  (← Written.ofText? text).value? Written.maxDepth

end PageMap.Json
