import PageMap.Json.Written
/-! # Settings in JSON

A group of settings is an object whose known names are its fields, or a list of the fields in their
order. Other names are ignored without being valued. A field that is missing is left to the caller;
a field that is named twice is an error.
-/

namespace PageMap.Json.Written

def single? : Written → Option Single
  | .number n => n.value?.map Number.Value.toSingle
  | _ => none

/-- A natural number up to a limit, written as an integer. -/
def natural? (limit : Nat) : Written → Option Nat
  | .number n =>
      match n.value? with
      | some (.natural k) => if k ≤ limit then some k else none
      | _ => none
  | _ => none

def bool? : Written → Option Bool
  | .bool b => some b
  | _ => none

def string? : Written → Option String
  | .string s => s
  | _ => none

/-- The values of the known fields among the members of an object. Every name has to be readable,
    and no known name may occur twice. -/
def knownFields? (names : List String) (members : List (Option String × Written)) :
    Option (List (Option Written)) := do
  let named ← members.mapM fun (name, value) => name.map fun name => (name, value)
  names.mapM fun name =>
    match named.filter fun member => member.1 = name with
    | [] => some none
    | [(_, value)] => some (some value)
    | _ => none

/-- The fields of a group of settings, in the order of their names. -/
def fields? (names : List String) : Written → Option (List (Option Written))
  | .object members => knownFields? names members
  | .array items =>
      if items.length ≤ names.length then
        some (items.map some ++ List.replicate (names.length - items.length) none)
      else none
  | _ => none

/-- A field that has a default. -/
def fieldOr {α : Type} (default : α) (read : Written → Option α) : Option Written → Option α
  | none => some default
  | some w => read w

/-- The name of a choice: a text, or an object with that one name and null. -/
def choice? : Written → Option String
  | .string s => s
  | .object [(name, .null)] => name
  | _ => none

end PageMap.Json.Written
