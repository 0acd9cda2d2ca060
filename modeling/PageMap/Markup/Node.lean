import PageMap.Dictionary
/-! # Markup trees

A map is a tree of elements. An element has a tag name, attributes in the order of the document,
child elements and the characters that stand directly in it.
-/

namespace PageMap

/-- One element of a map. -/
structure Node where
  name : String
  attributes : Dictionary String
  children : List Node
  text : String

namespace Node

/-- An element with a name and nothing else. -/
def bare (name : String) : Node := ⟨name, .empty, [], ""⟩

def attr? (n : Node) (name : String) : Option String :=
  n.attributes.get? name

def hasAttr (n : Node) (name : String) : Bool :=
  n.attributes.contains name

/-- The value of the first of some attributes that is present. -/
def attrAny? (n : Node) (names : List String) : Option String :=
  names.findSome? n.attr?

/-- The first child with a name. -/
def findChild? (n : Node) (name : String) : Option Node :=
  n.children.find? fun child => child.name = name

mutual

/-- The number of elements in a tree, its root included. -/
def size : Node → Nat
  | ⟨_, _, children, _⟩ => 1 + sizeAll children

def sizeAll : List Node → Nat
  | [] => 0
  | child :: rest => child.size + sizeAll rest

end

end Node

end PageMap
