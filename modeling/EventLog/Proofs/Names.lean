import EventLog.Names

/-!
# Tables stay in order

In a table whose names rise strictly no name stands twice (`Names.Rising`). Putting an entry in and
taking one out keep a table so. What happens to the values is counted with their multiplicity: putting
one in adds it and takes away the one that had the name (`values_insert_perm`), and taking a name out
takes away its value and nothing else (`values_erase_perm`).
-/

namespace EventLog.Names

variable {α : Type} {table : Names α}

/-- The names rise strictly. -/
def Rising (table : Names α) : Prop := table.keys.Pairwise (· < ·)

/-- The values in the order of their names. -/
def values (table : Names α) : List α := table.map (·.2)

theorem rising_nil : Rising ([] : Names α) := .nil

theorem rising_cons {name : String} {value : α} :
    Rising ((name, value) :: table) ↔ (∀ other ∈ table.keys, name < other) ∧ table.Rising :=
  List.pairwise_cons

/-! ## Which names a table has -/

theorem isSome_find? (name : String) : (find? table name).isSome = true ↔ name ∈ table.keys := by
  induction table with
  | nil => simp [find?, keys]
  | cons entry rest ih =>
    obtain ⟨key, value⟩ := entry
    rw [find?, keys, List.map_cons, List.mem_cons]
    by_cases h : name = key
    · simp [h]
    · simp only [h, if_false, false_or]
      exact ih

theorem find?_eq_none {name : String} (h : name ∉ table.keys) : find? table name = none :=
  Option.not_isSome_iff_eq_none.1 fun hsome => h ((isSome_find? name).1 hsome)

theorem mem_keys_insert (name other : String) (value : α) :
    other ∈ keys (insert name value table) ↔ other = name ∨ other ∈ table.keys := by
  rw [← isSome_find?, ← isSome_find?, find?_insert]
  by_cases h : other = name
  · simp [h]
  · simp [h]

theorem mem_of_find? {name : String} {value : α} (h : find? table name = some value) :
    (name, value) ∈ table := by
  induction table with
  | nil => cases h
  | cons entry rest ih =>
    obtain ⟨key, old⟩ := entry
    rw [find?] at h
    split at h
    · next heq =>
      cases h
      rw [heq]
      exact List.mem_cons_self
    · exact List.mem_cons_of_mem _ (ih h)

/-- In a table whose names rise, every entry is the one that is found under its name. -/
theorem mem_iff_find? (h : table.Rising) (name : String) (value : α) :
    (name, value) ∈ table ↔ find? table name = some value := by
  induction table with
  | nil => simp [find?]
  | cons entry rest ih =>
    obtain ⟨key, old⟩ := entry
    obtain ⟨hbelow, hrest⟩ := rising_cons.1 h
    rw [List.mem_cons, find?, Prod.mk.injEq]
    by_cases hname : name = key
    · have hnot : (name, value) ∉ rest := by
        intro hmem
        have hlt := hbelow name (List.mem_map_of_mem hmem)
        exact String.lt_irrefl key (hname ▸ hlt)
      simp [hname, eq_comm (a := value), hname ▸ hnot]
    · simp [hname, ih hrest]

/-! ## Putting in and taking out -/

theorem Rising.insert (h : table.Rising) (name : String) (value : α) :
    Rising (insert name value table) := by
  induction table with
  | nil => exact rising_cons.2 ⟨by simp [keys], rising_nil⟩
  | cons entry rest ih =>
    obtain ⟨key, old⟩ := entry
    obtain ⟨hbelow, hrest⟩ := rising_cons.1 h
    rw [Names.insert]
    split
    · next heq => exact rising_cons.2 ⟨heq ▸ hbelow, hrest⟩
    · next hne =>
      split
      · next hlt =>
        refine rising_cons.2 ⟨?_, h⟩
        intro other hother
        rcases List.mem_cons.1 hother with rfl | hmem
        · exact hlt
        · exact String.lt_trans hlt (hbelow other hmem)
      · next hge =>
        have hlt : key < name :=
          Std.lt_of_le_of_ne (String.not_lt.1 hge) (Ne.symm hne)
        refine rising_cons.2 ⟨?_, ih hrest⟩
        intro other hother
        rcases (mem_keys_insert name other value).1 hother with rfl | hmem
        · exact hlt
        · exact hbelow other hmem

/-- Names that rise strictly are all different. -/
theorem Rising.nodup (h : table.Rising) : table.keys.Nodup := by
  refine List.Pairwise.imp ?_ h
  rintro one _ hlt rfl
  exact String.lt_irrefl one hlt

theorem rising_ofList (entries : List (String × α)) : (ofList entries).Rising := by
  suffices hall : ∀ table : Names α, table.Rising →
      Rising (entries.foldl (fun table entry => Names.insert entry.1 entry.2 table) table) from
    hall [] rising_nil
  induction entries with
  | nil => exact fun _ h => h
  | cons entry rest ih => exact fun table h => ih _ (h.insert entry.1 entry.2)

/-- A table of entries with different names has what they have. -/
theorem find?_ofList {entries : List (String × α)} (h : (keys entries).Nodup) (name : String) :
    find? (ofList entries) name = find? entries name := by
  suffices hall : ∀ table : Names α,
      find? (entries.foldl (fun table entry => Names.insert entry.1 entry.2 table) table) name =
        (find? entries name).or (find? table name) from
    (hall []).trans Option.or_none
  induction entries with
  | nil => exact fun _ => rfl
  | cons entry rest ih =>
    intro table
    obtain ⟨key, value⟩ := entry
    obtain ⟨hnot, hrest⟩ := List.nodup_cons.1 h
    rw [List.foldl_cons, ih hrest, find?_insert, find?]
    by_cases hname : name = key
    · rw [hname, find?_eq_none hnot, if_pos rfl, if_pos rfl]
      rfl
    · rw [if_neg hname, if_neg hname]

theorem Rising.erase (h : table.Rising) (name : String) : Rising (erase name table) :=
  List.Pairwise.sublist (List.Sublist.map _ List.filter_sublist) h

/-- Taking out a name that a table does not have changes nothing. -/
theorem erase_eq_self {name : String} (h : name ∉ table.keys) : erase name table = table := by
  refine List.filter_eq_self.2 fun entry hentry => ?_
  have hne : entry.1 ≠ name := fun he => h (he ▸ List.mem_map_of_mem hentry)
  exact bne_iff_ne.2 hne

/-- With a value put in, the values are those before without the one that had the name. -/
theorem values_insert_perm (h : table.Rising) (name : String) (value : α) :
    ((insert name value table).values ++ (find? table name).toList).Perm
      (value :: table.values) := by
  induction table with
  | nil => exact .refl _
  | cons entry rest ih =>
    obtain ⟨key, old⟩ := entry
    obtain ⟨hbelow, hrest⟩ := rising_cons.1 h
    rw [Names.insert, find?]
    by_cases heq : name = key
    · have hmoved : (values rest ++ [old]).Perm (old :: values rest) := List.perm_append_comm
      rw [if_pos heq, if_pos heq]
      exact hmoved.cons value
    · rw [if_neg heq, if_neg heq]
      by_cases hlt : name < key
      · -- All names of the table come after the new one, so it is not among them.
        have hnot : name ∉ keys rest := by
          intro hmem
          exact String.lt_asymm hlt (hbelow name hmem)
        rw [if_pos hlt, find?_eq_none hnot, Option.toList_none, List.append_nil]
        exact .refl _
      · rw [if_neg hlt]
        exact ((ih hrest).cons old).trans (.swap value old _)

/-- With a name taken out, the values are those before without the one that had the name. -/
theorem values_erase_perm (h : table.Rising) (name : String) :
    ((erase name table).values ++ (find? table name).toList).Perm table.values := by
  induction table with
  | nil => exact .refl _
  | cons entry rest ih =>
    obtain ⟨key, old⟩ := entry
    obtain ⟨hbelow, hrest⟩ := rising_cons.1 h
    rw [find?]
    by_cases heq : name = key
    · have hnot : name ∉ keys rest := fun hmem =>
        String.lt_irrefl name (heq ▸ hbelow name hmem)
      have hout : Names.erase name ((key, old) :: rest) = rest := by
        rw [Names.erase, List.filter_cons_of_neg (by simp [heq])]
        exact erase_eq_self hnot
      have hmoved : (values rest ++ [old]).Perm (old :: values rest) := List.perm_append_comm
      rw [if_pos heq, hout]
      exact hmoved
    · have hout : Names.erase name ((key, old) :: rest) = (key, old) :: Names.erase name rest := by
        rw [Names.erase, List.filter_cons_of_pos (by simp [Ne.symm heq])]
        rfl
      rw [if_neg heq, hout]
      exact (ih hrest).cons old

end EventLog.Names
