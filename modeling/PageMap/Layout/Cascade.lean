import PageMap.Style.Value
/-! # The cascade

Values that elements give to what is inside them. Each style key has a stack of values of its own,
and its top is the value in effect.
-/

namespace PageMap

/-- The values of all keys in one list, the latest first. -/
structure Cascade where
  entries : List (StyleKey × StyleValue)

namespace Cascade

def empty : Cascade := ⟨[]⟩

/-- Puts a value on the stack of a key. -/
def push (c : Cascade) (key : StyleKey) (value : StyleValue) : Cascade :=
  ⟨(key, value) :: c.entries⟩

/-- Takes the top off the stack of a key. An empty stack stays as it is. -/
def pop (c : Cascade) (key : StyleKey) : Cascade :=
  ⟨c.entries.eraseP fun entry => entry.1 = key⟩

/-- The stack of a key, its top first. -/
def stack (c : Cascade) (key : StyleKey) : List StyleValue :=
  c.entries.filterMap fun entry => if entry.1 = key then some entry.2 else none

/-- The top of the stack of a key. -/
def top? (c : Cascade) (key : StyleKey) : Option StyleValue :=
  c.entries.findSome? fun entry => if entry.1 = key then some entry.2 else none

def depth (c : Cascade) (key : StyleKey) : Nat :=
  (c.stack key).length

def size (c : Cascade) : Nat :=
  c.entries.length

def pushAll (c : Cascade) (pushes : List (StyleKey × StyleValue)) : Cascade :=
  pushes.foldl (fun c entry => c.push entry.1 entry.2) c

/-- Pops once for every value of a list, starting with the last one. -/
def popAll (c : Cascade) (pushes : List (StyleKey × StyleValue)) : Cascade :=
  pushes.reverse.foldl (fun c entry => c.pop entry.1) c

end Cascade

end PageMap
