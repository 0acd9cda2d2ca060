import PageMap.Dictionary
import PageMap.Text.Blank
/-! # Font families

A map may name a font family by an alias.
-/

namespace PageMap

/-- Aliases with the families that they stand for. -/
structure FamilyAliases where
  families : Dictionary String

namespace FamilyAliases

def empty : FamilyAliases := ⟨.empty⟩

/-- The family of a name without the blanks around it. A name that is no alias is the family itself;
    nothing but blanks names none. -/
def resolve? (a : FamilyAliases) (name : String) : Option String :=
  let name := Text.trim name
  if name.isEmpty then none else some ((a.families.get? name).getD name)

end FamilyAliases

end PageMap
