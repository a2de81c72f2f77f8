/-!
# Dictionaries

Tables from names to texts. The entries stand in the order of their names and each name stands once,
so two dictionaries with the same entries are equal. A later entry for a name takes the place of an
earlier one.
-/

namespace Typeset

/-- The entries with one more, in order, in place of an entry of the same name. -/
def insertEntry (name value : String) : List (String × String) → List (String × String)
  | [] => [(name, value)]
  | entry :: rest =>
    if name < entry.1 then (name, value) :: entry :: rest
    else if name = entry.1 then (name, value) :: rest
    else entry :: insertEntry name value rest

/-- Inserting brings in no entry but the new one. -/
theorem mem_of_mem_insertEntry {name value : String} {entries : List (String × String)}
    {entry : String × String} (member : entry ∈ insertEntry name value entries) :
    entry = (name, value) ∨ entry ∈ entries := by
  induction entries with
  | nil => simpa [insertEntry] using member
  | cons first rest ih =>
    unfold insertEntry at member
    split at member
    · simpa using member
    · split at member
      · rcases List.mem_cons.1 member with rfl | old
        · exact .inl rfl
        · exact .inr (List.mem_cons_of_mem _ old)
      · rcases List.mem_cons.1 member with rfl | deeper
        · exact .inr (List.mem_cons_self ..)
        · exact (ih deeper).imp_right (List.mem_cons_of_mem _)

/-- Inserting keeps the names in order. -/
theorem insertEntry_ordered {name value : String} {entries : List (String × String)}
    (ordered : entries.Pairwise (·.1 < ·.1)) :
    (insertEntry name value entries).Pairwise (·.1 < ·.1) := by
  induction entries with
  | nil => simp [insertEntry]
  | cons first rest ih =>
    obtain ⟨above, ordered⟩ := List.pairwise_cons.1 ordered
    unfold insertEntry
    split
    · rename_i below
      refine List.pairwise_cons.2 ⟨fun entry member => ?_, List.pairwise_cons.2 ⟨above, ordered⟩⟩
      rcases List.mem_cons.1 member with rfl | later
      · exact below
      · exact String.lt_trans below (above _ later)
    · split
      · rename_i same
        exact List.pairwise_cons.2 ⟨fun entry member => same ▸ above entry member, ordered⟩
      · rename_i notBelow distinct
        refine List.pairwise_cons.2 ⟨fun entry member => ?_, ih ordered⟩
        rcases mem_of_mem_insertEntry member with rfl | old
        · exact Decidable.byContradiction fun notAbove =>
            distinct (String.le_antisymm (String.not_lt.1 notAbove) (String.not_lt.1 notBelow))
        · exact above entry old

/-- The new entry is found under its name, and every other name is left alone. -/
theorem lookup_insertEntry (name value key : String) (entries : List (String × String)) :
    (insertEntry name value entries).lookup key =
      if key = name then some value else entries.lookup key := by
  induction entries with
  | nil =>
    by_cases same : key = name
    · simp [insertEntry, same]
    · have apart : (key == name) = false := by simpa using same
      simp [insertEntry, List.lookup_cons, same, apart]
  | cons entry rest ih =>
    obtain ⟨other, kept⟩ := entry
    unfold insertEntry
    by_cases same : key = name
    · subst same
      split
      · simp
      · split
        · simp
        · rename_i distinct
          have apart : (key == other) = false := by simpa using distinct
          simpa [List.lookup_cons, apart] using ih
    · have apart : (key == name) = false := by simpa using same
      split
      · simp [List.lookup_cons, apart]
      · split
        · rename_i equal
          have apart' : (key == other) = false := (show name = other from equal) ▸ apart
          simp [List.lookup_cons, apart, apart']
        · simp only [List.lookup_cons, ih, same]
          rfl

/-- A table from names to texts. -/
structure Dictionary where
  entries : List (String × String)
  ordered : entries.Pairwise (·.1 < ·.1)
  deriving DecidableEq, Repr

namespace Dictionary

/-- The dictionary without entries. -/
def empty : Dictionary where
  entries := []
  ordered := List.Pairwise.nil

instance : Inhabited Dictionary where
  default := empty

/-- Enters a text under a name, in place of what stood there. -/
def insert (dictionary : Dictionary) (name value : String) : Dictionary where
  entries := insertEntry name value dictionary.entries
  ordered := insertEntry_ordered dictionary.ordered

/-- The dictionary of the given entries; of two for one name the later stands. -/
def ofList (entries : List (String × String)) : Dictionary :=
  entries.foldl (fun dictionary entry => dictionary.insert entry.1 entry.2) empty

/-- The text under a name, if there is one. -/
def find? (dictionary : Dictionary) (name : String) : Option String :=
  dictionary.entries.lookup name

/-- Whether a name has an entry. -/
def contains (dictionary : Dictionary) (name : String) : Bool :=
  (dictionary.find? name).isSome

/-- The text entered last under a name is the one that is found. -/
theorem find?_insert (dictionary : Dictionary) (name value key : String) :
    (dictionary.insert name value).find? key =
      if key = name then some value else dictionary.find? key :=
  lookup_insertEntry name value key dictionary.entries

end Dictionary

end Typeset
