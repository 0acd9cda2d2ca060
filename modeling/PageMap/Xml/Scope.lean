import PageMap.Xml.Tag
/-! # Namespaces

A qualifier stands for a namespace that is declared on the element itself or on one around it.
Declarations look like attributes and are none. Maps make no use of namespaces, so all that matters
is whether a tag uses them correctly.
-/

namespace PageMap.Xml

/-- Qualifiers with their namespaces, the innermost first. The default namespace has none. -/
abbrev Scope := List (Option String × String)

/-- The namespace that the qualifier `xml` stands for without a declaration. -/
def xmlNamespace : String := "http://www.w3.org/XML/1998/namespace"

/-- The namespace of declarations, which cannot be declared. -/
def declarationNamespace : String := "http://www.w3.org/2000/xmlns/"

/-- The qualifier that marks a declaration. -/
def declarationMark : String := "xmlns"

/-- The qualifier that needs no declaration on attributes. -/
def xmlMark : String := "xml"

/-- What an attribute declares, if it is a declaration: a qualifier, or the default namespace. -/
def Name.declares? (name : Name) : Option (Option String) :=
  if name.qualifier = declarationMark then some (some name.base)
  else if name.base = declarationMark then some none
  else none

namespace Scope

/-- Adds the declarations of one tag, in order. The two fixed namespaces keep their qualifiers, and
    no qualifier is declared twice. -/
def declareAll? : List (Option String × String) → Scope → Option Scope
  | [], declared => some declared
  | (qualifier, uri) :: rest, declared =>
      if uri = declarationNamespace then none
      else match qualifier with
        | none => if uri = xmlNamespace then none else declareAll? rest (declared ++ [(none, uri)])
        | some q =>
            if (q == xmlMark) != (uri == xmlNamespace) then none
            else if (declared.lookup (some q)).isSome then none
            else if q = xmlMark then declareAll? rest declared
            else declareAll? rest (declared ++ [(some q, uri)])

def enter? (scope : Scope) (attributes : List (Name × String)) : Option Scope := do
  let declarations := attributes.filterMap fun (name, value) =>
    name.declares?.map fun qualifier => (qualifier, value)
  return (← declareAll? declarations []) ++ scope

/-- The namespace of an attribute. Without a qualifier it has none, whatever the default is. -/
def ofAttribute? (scope : Scope) (name : Name) : Option (Option String) :=
  if name.qualifier.isEmpty then some none
  else if name.qualifier = xmlMark then some (some xmlNamespace)
  else (scope.lookup (some name.qualifier)).map some

/-- The qualifier of an element is declared, if it has one. -/
def admitsElement (scope : Scope) (name : Name) : Bool :=
  name.qualifier ≠ declarationMark &&
    (name.qualifier.isEmpty || (scope.lookup (some name.qualifier)).isSome)

end Scope

/-- The attributes of a tag by their names without qualifiers, and the scope inside the element. All
    qualifiers have to be declared, and no two attributes may share both namespace and name. -/
def StartTag.resolve? (tag : StartTag) (scope : Scope) :
    Option (List (String × String) × Scope) := do
  let scope ← scope.enter? tag.attributes
  if !scope.admitsElement tag.name then none
  else
    let plain := tag.attributes.filter fun (name, _) => name.declares?.isNone
    let full ← plain.mapM fun (name, _) =>
      (scope.ofAttribute? name).map fun uri => (uri, name.base)
    if full.Nodup then return (plain.map fun (name, value) => (name.base, value), scope) else none

end PageMap.Xml
