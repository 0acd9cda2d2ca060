/-! # Dictionaries in order of insertion

A dictionary keeps its names in the order in which they were first inserted. Inserting a name again
replaces its value and leaves it at its place.
-/

namespace PageMap

/-- Names with their values; a name stands once. -/
structure Dictionary (α : Type) where
  entries : List (String × α)
  distinct : (entries.map (·.1)).Nodup
  deriving DecidableEq

namespace Dictionary

variable {α : Type}

def empty : Dictionary α := ⟨[], .nil⟩

/-- Sets the value of a name in a list of entries, at its place or at the end. -/
def insertEntry (name : String) (value : α) : List (String × α) → List (String × α)
  | [] => [(name, value)]
  | entry :: rest =>
      if entry.1 = name then (name, value) :: rest else entry :: insertEntry name value rest

theorem mem_insertEntry_names {name other : String} {value : α} {entries : List (String × α)}
    (h : other ∈ (insertEntry name value entries).map (·.1)) :
    other = name ∨ other ∈ entries.map (·.1) := by
  induction entries with
  | nil => exact .inl (by simpa [insertEntry] using h)
  | cons entry rest ih =>
      simp only [insertEntry] at h
      split at h <;> simp only [List.map_cons, List.mem_cons] at h ⊢
      · exact h.imp_right .inr
      · exact h.elim (fun same => .inr (.inl same)) fun inRest => (ih inRest).imp_right .inr

theorem insertEntry_distinct (name : String) (value : α) {entries : List (String × α)}
    (h : (entries.map (·.1)).Nodup) : ((insertEntry name value entries).map (·.1)).Nodup := by
  induction entries with
  | nil => simp [insertEntry]
  | cons entry rest ih =>
      obtain ⟨absent, restDistinct⟩ := List.nodup_cons.mp h
      simp only [insertEntry]
      split
      · rename_i same
        exact List.nodup_cons.mpr ⟨same ▸ absent, restDistinct⟩
      · rename_i different
        refine List.nodup_cons.mpr ⟨fun inside => ?_, ih restDistinct⟩
        exact (mem_insertEntry_names inside).elim different absent

def insert (d : Dictionary α) (name : String) (value : α) : Dictionary α :=
  ⟨insertEntry name value d.entries, insertEntry_distinct name value d.distinct⟩

def insertAll (d : Dictionary α) (entries : List (String × α)) : Dictionary α :=
  entries.foldl (fun d entry => d.insert entry.1 entry.2) d

/-- The dictionary of a list of entries; of two with one name the later one counts. -/
def ofList (entries : List (String × α)) : Dictionary α :=
  empty.insertAll entries

def get? (d : Dictionary α) (name : String) : Option α :=
  d.entries.lookup name

def contains (d : Dictionary α) (name : String) : Bool :=
  (d.get? name).isSome

def erase (d : Dictionary α) (name : String) : Dictionary α :=
  ⟨d.entries.filter fun entry => entry.1 ≠ name, d.distinct.sublist (List.filter_sublist.map _)⟩

/-- The names, in order of insertion. -/
def names (d : Dictionary α) : List String :=
  d.entries.map (·.1)

def size (d : Dictionary α) : Nat :=
  d.entries.length

def isEmpty (d : Dictionary α) : Bool :=
  d.entries.isEmpty

end Dictionary

example : (Dictionary.ofList [("a", 1), ("b", 2), ("a", 3)]).entries = [("a", 3), ("b", 2)] := by
  decide

end PageMap
