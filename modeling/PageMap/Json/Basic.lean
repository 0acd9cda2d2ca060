import PageMap.Json.Number
import PageMap.Text.Hex
/-! # JSON values

The values that data is made of, and their text. Members of an object are kept in the order in
which they are written; where a name occurs twice the last member counts.
-/

namespace PageMap

inductive Json where
  | null
  | bool (value : Bool)
  | number (value : Json.Number)
  | string (value : String)
  | array (items : List Json)
  | object (members : List (String × Json))

namespace Json

/-- A single as a value; what is not finite is null. -/
def ofSingle (x : Single) : Json :=
  match Number.ofSingle? x with
  | some n => .number n
  | none => .null

def ofNat (n : Nat) : Json :=
  .number (.ofNat n)

/-- The member of a name, if the value is an object that has one. -/
def member? (name : String) : Json → Option Json
  | .object members => members.reverse.lookup name
  | _ => none

/-- A character within quotes. Quotes, backslashes and controls are escaped, all else stands for
    itself. -/
def escapeChar (c : Char) : List Char :=
  match c with
  | '"' => ['\\', '"']
  | '\\' => ['\\', '\\']
  | '\n' => ['\\', 'n']
  | '\r' => ['\\', 'r']
  | '\t' => ['\\', 't']
  | '\x08' => ['\\', 'b']
  | '\x0c' => ['\\', 'f']
  | c =>
      if c.toNat < 0x20 then
        ['\\', 'u', '0', '0', Text.hexDigit (c.toNat / 16), Text.hexDigit c.toNat]
      else [c]

def quote (s : String) : List Char :=
  '"' :: (s.toList.flatMap escapeChar ++ ['"'])

/-- How the parts of a list are set apart: `none` for nothing between them, or the depth of
    indentation in steps of two blanks. -/
abbrev Indent := Option Nat

/-- A line end followed by the indentation, or nothing. -/
def Indent.lineBreak : Indent → List Char
  | none => []
  | some depth => '\n' :: List.replicate (2 * depth) ' '

/-- One step further in. -/
def Indent.deeper (indent : Indent) : Indent :=
  indent.map (· + 1)

/-- A bracketed list of parts that are already written. -/
def enclose (left right : Char) (indent : Indent) (parts : List (List Char)) : List Char :=
  if parts.isEmpty then [left, right]
  else
    let lead := indent.deeper.lineBreak
    left :: (lead ++ (parts.intersperse (',' :: lead)).flatten ++ indent.lineBreak ++ [right])

mutual

def chars (indent : Indent) : Json → List Char
  | .null => ['n', 'u', 'l', 'l']
  | .bool true => ['t', 'r', 'u', 'e']
  | .bool false => ['f', 'a', 'l', 's', 'e']
  | .number n => n.text
  | .string s => quote s
  | .array items => enclose '[' ']' indent (itemsChars indent.deeper items)
  | .object members => enclose '{' '}' indent (membersChars indent.deeper members)

def itemsChars (indent : Indent) : List Json → List (List Char)
  | [] => []
  | item :: items => item.chars indent :: itemsChars indent items

def membersChars (indent : Indent) : List (String × Json) → List (List Char)
  | [] => []
  | member :: members => memberChars indent member :: membersChars indent members

/-- The name of a member, a colon and its value. Indented text has a blank after the colon. -/
def memberChars (indent : Indent) : String × Json → List Char
  | (name, value) =>
      quote name ++ (if indent.isSome then [':', ' '] else [':']) ++ value.chars indent

end

/-- The text of a value without any space in it. -/
def compact (j : Json) : String :=
  String.ofList (j.chars none)

/-- The text of a value with every part on a line of its own. -/
def pretty (j : Json) : String :=
  String.ofList (j.chars (some 0))

end Json

end PageMap
