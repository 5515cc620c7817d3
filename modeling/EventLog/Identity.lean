/-!
# Identities

Loggers and appenders can be reconfigured while others hold them, so everything that refers to one
holds its identity and not its state. The state is kept in a `Store` that only grows: an identity,
once given out, always means the same object. A compiled layout never changes, so whoever shares
one holds the layout itself with the stamp of its compilation; two stamps agree exactly when the two
holders share one object.
-/

namespace EventLog

/-- The identity of a logger. -/
@[ext]
structure LoggerId where
  index : Nat
  deriving DecidableEq

/-- The identity of an appender. -/
@[ext]
structure AppenderId where
  index : Nat
  deriving DecidableEq

/-- The states of the objects of one kind, by index. -/
structure Store (α : Type) where
  entries : List α := []

namespace Store

variable {α : Type}

/-- How many objects there are; also the index that the next one gets. -/
def size (store : Store α) : Nat := store.entries.length

/-- The state of an object; an index that was never given out has the default state. -/
def get [Inhabited α] (store : Store α) (index : Nat) : α := store.entries.getD index default

/-- Changes the state of one object. -/
def modify (store : Store α) (index : Nat) (change : α → α) : Store α :=
  { entries := store.entries.modify index change }

/-- Adds an object, whose index is the size before. -/
def push (store : Store α) (entry : α) : Store α := { entries := store.entries ++ [entry] }

@[simp] theorem size_modify (store : Store α) (index : Nat) (change : α → α) :
    (store.modify index change).size = store.size := by
  simp [size, modify]

@[simp] theorem size_push (store : Store α) (entry : α) :
    (store.push entry).size = store.size + 1 := by
  simp [size, push]

/-- What an identity means after a change of one object, given out or not. -/
theorem get_modify [Inhabited α] (store : Store α) (index other : Nat) (change : α → α) :
    (store.modify index change).get other =
      if other = index ∧ index < store.size then change (store.get other) else store.get other := by
  by_cases h : other = index
  · subst h
    by_cases hlt : other < store.entries.length
    · simp [get, modify, size, List.getD_eq_getElem?_getD, hlt]
    · simp [get, modify, size, List.getD_eq_getElem?_getD, hlt]
  · rw [if_neg fun hand => h hand.1]
    simp [get, modify, List.getD_eq_getElem?_getD, Ne.symm h]

/-- A change that keeps some part of each object keeps that part of all of them. -/
theorem get_modify_of_keeps [Inhabited α] {β : Type} (part : α → β) (store : Store α)
    (index other : Nat) {change : α → α} (h : ∀ entry, part (change entry) = part entry) :
    part ((store.modify index change).get other) = part (store.get other) := by
  rw [get_modify]
  split
  · exact h _
  · rfl

/-- Two changes that agree on an object change it alike. -/
theorem modify_congr [Inhabited α] {store : Store α} {index : Nat} {f g : α → α}
    (h : f (store.get index) = g (store.get index)) :
    store.modify index f = store.modify index g := by
  refine congrArg Store.mk (List.ext_getElem? fun other => ?_)
  rw [List.getElem?_modify, List.getElem?_modify]
  by_cases hother : index = other
  · subst hother
    rw [get, List.getD_eq_getElem?_getD] at h
    cases hentry : store.entries[index]? with
    | none => rfl
    | some entry =>
      rw [hentry, Option.getD_some] at h
      simp only [if_true, Option.map_eq_map, Option.map_some, h]
  · simp only [if_neg hother]

theorem modify_modify (store : Store α) (index : Nat) (f g : α → α) :
    (store.modify index f).modify index g = store.modify index (g ∘ f) :=
  congrArg Store.mk (List.modify_modify_eq f g index store.entries)

/-- A change that leaves an object as it is changes nothing. -/
theorem modify_eq_self [Inhabited α] {store : Store α} {index : Nat} {change : α → α}
    (h : change (store.get index) = store.get index) : store.modify index change = store := by
  rw [modify_congr (g := id) h, modify, List.modify_id]

/-- What an identity means after an object was added: nothing new, unless it is that object's. -/
theorem get_push [Inhabited α] (store : Store α) (entry : α) (index : Nat) :
    (store.push entry).get index = if index = store.size then entry else store.get index := by
  by_cases h : index = store.size
  · subst h
    simp [get, push, size, List.getD_eq_getElem?_getD]
  · rw [if_neg h]
    rcases Nat.lt_or_gt_of_ne h with hlt | hgt
    · have hlt' : index < store.entries.length := hlt
      simp [get, push, List.getD_eq_getElem?_getD, List.getElem?_append_left hlt']
    · have hnone : store.entries[index]? = none := List.getElem?_eq_none (Nat.le_of_lt hgt)
      have hpushed : (store.entries ++ [entry])[index]? = none := by
        apply List.getElem?_eq_none
        rw [List.length_append]
        exact hgt
      rw [get, get, push, List.getD_eq_getElem?_getD, List.getD_eq_getElem?_getD, hpushed, hnone]

theorem get_of_size_le [Inhabited α] (store : Store α) {index : Nat} (h : store.size ≤ index) :
    store.get index = default := by
  rw [get, List.getD_eq_getElem?_getD, List.getElem?_eq_none h, Option.getD_none]

/-- A change of the object that was just added. -/
theorem modify_push_size (store : Store α) (entry : α) (change : α → α) :
    (store.push entry).modify store.size change = store.push (change entry) := by
  rw [modify, push, push, size, List.modify_eq_take_cons_drop (by simp)]
  simp

end Store

end EventLog
