/-!
# Tables by name

A table maps names to values. Its entries stand in the rising order of the names, and no name stands
twice; both hold of every table made by `insert` and `erase`.
-/

namespace EventLog

/-- Entries in the rising order of their names. -/
abbrev Names (α : Type) := List (String × α)

namespace Names

variable {α : Type}

/-- Puts an entry in its place, instead of one that has the name already. -/
def insert (name : String) (value : α) : Names α → Names α
  | [] => [(name, value)]
  | (other, old) :: rest =>
    if name = other then (name, value) :: rest
    else if name < other then (name, value) :: (other, old) :: rest
    else (other, old) :: insert name value rest

/-- The value under a name. -/
def find? (table : Names α) (name : String) : Option α :=
  match table with
  | [] => none
  | (other, value) :: rest => if name = other then some value else find? rest name

/-- Takes an entry out. -/
def erase (name : String) (table : Names α) : Names α := table.filter (·.1 != name)

/-- The names in rising order. -/
def keys (table : Names α) : List String := table.map (·.1)

/-- The table of some entries; of two with one name the later counts. -/
def ofList (entries : List (String × α)) : Names α :=
  entries.foldl (fun table (name, value) => insert name value table) []

theorem find?_insert (name other : String) (value : α) (table : Names α) :
    find? (insert name value table) other
      = if other = name then some value else find? table other := by
  induction table with
  | nil => simp [insert, find?]
  | cons entry rest ih =>
    obtain ⟨key, old⟩ := entry
    simp only [insert]
    split
    · next h => subst h; simp only [find?]; split <;> rfl
    · next h =>
      split
      · simp only [find?]
      · simp only [find?, ih]
        by_cases hk : other = key
        · subst hk; simp [Ne.symm h]
        · simp [hk]

theorem find?_erase (name other : String) (table : Names α) :
    find? (erase name table) other = if other = name then none else find? table other := by
  induction table with
  | nil => simp [erase, find?]
  | cons entry rest ih =>
    obtain ⟨key, old⟩ := entry
    simp only [erase] at ih ⊢
    by_cases hk : key = name
    · subst hk
      simp only [List.filter_cons, bne_self_eq_false, Bool.false_eq_true, if_false, ih, find?]
      split <;> rfl
    · simp only [List.filter_cons, bne_iff_ne, ne_eq, hk, not_false_eq_true, if_true, find?, ih]
      by_cases ho : other = key
      · subst ho; simp [hk]
      · simp [ho]

end Names

end EventLog
