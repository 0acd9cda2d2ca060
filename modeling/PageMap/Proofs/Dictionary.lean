import PageMap.Dictionary
/-! # Laws of dictionaries

A dictionary is its names in order together with the value of each. Inserting entries appends the
names that are new, each where it first stands, and gives every name the value that it is given
last. Entries that were all inserted already change nothing when they are inserted again.
-/

namespace PageMap.Dictionary

variable {α : Type} (d : Dictionary α)

@[simp]
theorem insertAll_nil : d.insertAll [] = d :=
  rfl

theorem insertAll_cons (entry : String × α) (entries : List (String × α)) :
    d.insertAll (entry :: entries) = (d.insert entry.1 entry.2).insertAll entries :=
  rfl

theorem insertAll_append (first second : List (String × α)) :
    d.insertAll (first ++ second) = (d.insertAll first).insertAll second := by
  simp only [insertAll, List.foldl_append]

theorem filterMap_name {β : Type} (name : String) (f : α → Option β) :
    (d.entries.filterMap fun entry => if entry.1 = name then f entry.2 else none) =
      ((d.get? name).bind f).toList := by
  obtain ⟨entries, distinct⟩ := d
  simp only [get?]
  induction entries with
  | nil => rfl
  | cons entry rest ih =>
      obtain ⟨other, value⟩ := entry
      obtain ⟨absent, restDistinct⟩ := List.nodup_cons.mp distinct
      rw [List.filterMap_cons, List.lookup_cons]
      by_cases same : other = name
      · -- the name stands once
        have none_left : (rest.filterMap fun entry =>
            if entry.1 = name then f entry.2 else none) = [] := by
          rw [List.filterMap_eq_nil_iff]
          intro entry member
          have later : entry.1 ≠ name := fun again =>
            absent (List.mem_map.mpr ⟨entry, member, again.trans same.symm⟩)
          rw [if_neg later]
        simp only [same, if_true, beq_self_eq_true, none_left, Option.bind_some]
        cases f value <;> rfl
      · have different : (name == other) = false := by simpa using Ne.symm same
        simp only [same, if_false, different]
        exact ih restDistinct

/-! ### Values -/

theorem lookup_cons_name (entry : String × α) (rest : List (String × α)) (name : String) :
    (entry :: rest).lookup name = if name = entry.1 then some entry.2 else rest.lookup name := by
  obtain ⟨first, value⟩ := entry
  rw [List.lookup_cons]
  by_cases same : name = first
  · simp only [same, beq_self_eq_true, if_true]
  · simp only [beq_eq_false_iff_ne.mpr same, if_neg same]

theorem lookup_insertEntry (name other : String) (value : α) (entries : List (String × α)) :
    (insertEntry name value entries).lookup other =
      if other = name then some value else entries.lookup other := by
  induction entries with
  | nil => rw [insertEntry, lookup_cons_name]
  | cons entry rest ih =>
      rw [insertEntry]
      by_cases here : entry.1 = name
      · rw [if_pos here, lookup_cons_name, lookup_cons_name, here]
        by_cases same : other = name
        · rw [if_pos same, if_pos same]
        · rw [if_neg same, if_neg same, if_neg same]
      · rw [if_neg here, lookup_cons_name, lookup_cons_name, ih]
        by_cases same : other = name
        · have different : other ≠ entry.1 := same ▸ Ne.symm here
          rw [if_neg different, if_pos same, if_pos same]
        · rw [if_neg same, if_neg same]

/-- A name has the value that it was given last, if it was given one. -/
theorem get?_insertAll (entries : List (String × α)) (name : String) :
    (d.insertAll entries).get? name = (entries.reverse.lookup name).or (d.get? name) := by
  induction entries generalizing d with
  | nil => rfl
  | cons entry rest ih =>
      have first : (d.insert entry.1 entry.2).get? name =
          ([entry].lookup name).or (d.get? name) := by
        rw [lookup_cons_name]
        refine (lookup_insertEntry _ _ _ _).trans ?_
        split <;> rfl
      rw [insertAll_cons, ih, first, List.reverse_cons, List.lookup_append, Option.or_assoc]

theorem get?_of_mem {entry : String × α} (member : entry ∈ d.entries) :
    d.get? entry.1 = some entry.2 := by
  have there : entry.2 ∈ d.entries.filterMap fun other =>
      if other.1 = entry.1 then some other.2 else none :=
    List.mem_filterMap.mpr ⟨entry, member, if_pos rfl⟩
  rw [d.filterMap_name entry.1 some, Option.bind_fun_some, Option.mem_toList] at there
  exact there

theorem mem_of_lookup {entries : List (String × α)} {name : String} {value : α}
    (found : entries.lookup name = some value) : (name, value) ∈ entries := by
  obtain ⟨before, after, rfl, -⟩ := List.lookup_eq_some_iff.mp found
  exact List.mem_append_right before List.mem_cons_self

theorem get?_eq_some {name : String} {value : α} :
    d.get? name = some value ↔ (name, value) ∈ d.entries :=
  ⟨mem_of_lookup, d.get?_of_mem⟩

/-- A value after an insertion is one that was inserted, or it was there before. -/
theorem mem_of_get?_insertAll {entries : List (String × α)} {name : String} {value : α}
    (found : (d.insertAll entries).get? name = some value) :
    (name, value) ∈ entries ∨ d.get? name = some value := by
  rw [get?_insertAll] at found
  rcases Option.or_eq_some_iff.mp found with inserted | ⟨-, before⟩
  · exact .inl (List.mem_reverse.mp (mem_of_lookup inserted))
  · exact .inr before

/-- Two dictionaries are equal if they have the same names in the same order, and the same value
    for each. -/
theorem eq_of_get? {d e : Dictionary α} (names : d.names = e.names)
    (values : ∀ name, d.get? name = e.get? name) : d = e := by
  have entries (c : Dictionary α) :
      c.entries.map some =
        c.names.map fun name => (c.get? name).map fun value => (name, value) := by
    rw [Dictionary.names, List.map_map]
    refine List.map_congr_left fun entry member => ?_
    simp only [Function.comp, c.get?_of_mem member, Option.map_some]
  have same : d.entries.map some = e.entries.map some := by
    rw [entries d, entries e, names]
    simp only [values]
  obtain ⟨first, distinct⟩ := d
  obtain ⟨second, distinct'⟩ := e
  obtain rfl : first = second :=
    (List.map_inj_right fun _ _ => Option.some.inj).mp same
  rfl

/-! ### Names -/

theorem distinct_names : d.names.Nodup :=
  d.distinct

theorem names_insertEntry (name : String) (value : α) (entries : List (String × α)) :
    (insertEntry name value entries).map (·.1) =
      if name ∈ entries.map (·.1) then entries.map (·.1) else entries.map (·.1) ++ [name] := by
  induction entries with
  | nil => rfl
  | cons entry rest ih =>
      rw [insertEntry]
      by_cases same : entry.1 = name
      · simp [same]
      · rw [if_neg same, List.map_cons, ih]
        by_cases later : name ∈ rest.map (·.1)
        · simp [later]
        · simp [later, Ne.symm same]

theorem eraseDups_of_nodup {names : List String} (distinct : names.Nodup) :
    names.eraseDups = names := by
  induction names with
  | nil => rfl
  | cons name rest ih =>
      obtain ⟨absent, restDistinct⟩ := List.nodup_cons.mp distinct
      have others : rest.filter (fun other => !other == name) = rest :=
        List.filter_eq_self.mpr fun other member => by
          simpa using fun same : other = name => absent (same ▸ member)
      rw [List.eraseDups_cons, others, ih restDistinct]

/-- The names stand in the order in which they first came. -/
theorem names_insertAll (entries : List (String × α)) :
    (d.insertAll entries).names = (d.names ++ entries.map (·.1)).eraseDups := by
  induction entries generalizing d with
  | nil =>
      rw [insertAll_nil, List.map_nil, List.append_nil, eraseDups_of_nodup d.distinct_names]
  | cons entry rest ih =>
      have first : (d.insert entry.1 entry.2).names =
          if entry.1 ∈ d.names then d.names else d.names ++ [entry.1] := names_insertEntry _ _ _
      rw [insertAll_cons, ih, first, List.map_cons]
      by_cases known : entry.1 ∈ d.names
      · rw [if_pos known, List.eraseDups_append, List.eraseDups_append, List.cons_removeAll]
        simp [known]
      · rw [if_neg known, List.append_assoc, List.singleton_append]

/-- Entries that are there already change nothing when they come again. -/
theorem insertAll_insertAll (entries : List (String × α)) :
    (d.insertAll entries).insertAll entries = d.insertAll entries := by
  refine eq_of_get? ?_ fun name => ?_
  · have known : (entries.map (·.1)).removeAll (d.insertAll entries).names = [] := by
      rw [List.removeAll, List.filter_eq_nil_iff]
      intro name member
      have there : name ∈ (d.insertAll entries).names := by
        rw [names_insertAll, List.mem_eraseDups]
        exact List.mem_append_right _ member
      simpa using there
    rw [names_insertAll, List.eraseDups_append, known, List.eraseDups_nil, List.append_nil,
      eraseDups_of_nodup (d.insertAll entries).distinct_names]
  · rw [get?_insertAll, get?_insertAll, ← Option.or_assoc, Option.or_self]

end PageMap.Dictionary
