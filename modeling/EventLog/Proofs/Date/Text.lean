import EventLog.Date.Render

/-!
# Dates without tabs

A date shows a tab only where its pattern has one (`tabFree_dateText`): numbers are made of digits,
signs and fillers, and no name has a tab. Where a moment cannot be shown by the pattern, what is shown
instead is empty or a number, and has no tab either.
-/

namespace EventLog

namespace Text

/-- A decimal number is made of digits. -/
theorem not_mem_decimal {c : Char} (hc : c.isDigit = false) (n : Nat) :
    c ∉ (toString n).toList := by
  intro hmem
  rw [Nat.toString_eq_repr, Nat.toList_repr] at hmem
  have hdigit := Nat.isDigit_of_mem_toDigits (by decide) (by decide) hmem
  rw [hc] at hdigit
  cases hdigit

/-- A decimal number can be read back from its digits. -/
theorem decimal_injective {m n : Nat} (h : toString m = toString n) : m = n := by
  have hdigits := congrArg String.toList h
  rw [Nat.toString_eq_repr, Nat.toString_eq_repr, Nat.toList_repr, Nat.toList_repr] at hdigits
  rw [← Nat.ofDigitChars_ten_toDigits (n := m), hdigits, Nat.ofDigitChars_ten_toDigits]

/-- A text without tabs. -/
def TabFree (text : String) : Prop := '\t' ∉ text.toList

instance (text : String) : Decidable (TabFree text) :=
  inferInstanceAs (Decidable ('\t' ∉ text.toList))

@[simp] theorem tabFree_append (s t : String) : TabFree (s ++ t) ↔ TabFree s ∧ TabFree t := by
  simp [TabFree]

@[simp] theorem tabFree_ofList (l : List Char) : TabFree (String.ofList l) ↔ '\t' ∉ l := by
  simp [TabFree]

@[simp] theorem tabFree_repr (n : Nat) : TabFree n.repr := by
  rw [← Nat.toString_eq_repr]
  exact not_mem_decimal (by decide) n

theorem tabFree_int (n : Int) : TabFree (toString n) := by
  rw [Int.toString_eq_repr, Int.repr_eq_if]
  split
  · exact tabFree_repr n.toNat
  · exact (tabFree_append _ _).2 ⟨by decide, tabFree_repr (-n).toNat⟩

end Text

namespace Date

open Text

/-! ## Numbers -/

theorem tabFree_padLeft {fill : Char} {text : String} (hfill : fill ≠ '\t') (h : TabFree text)
    (width : Nat) : TabFree (padLeft width fill text) := by
  rw [padLeft, tabFree_append, tabFree_ofList, List.mem_replicate]
  exact ⟨fun hmem => hfill hmem.2.symm, h⟩

theorem tabFree_padNumber {sign : String} (h : TabFree sign) (width : Nat) (padding : Padding)
    (n : Nat) : TabFree (padNumber width padding sign n) := by
  have hsigned : TabFree (sign ++ toString n) := (tabFree_append _ _).2 ⟨h, tabFree_repr n⟩
  cases padding with
  | none => exact hsigned
  | space => exact tabFree_padLeft (by decide) hsigned width
  | zero => exact (tabFree_append _ _).2 ⟨h, tabFree_padLeft (by decide) (tabFree_repr n) _⟩

theorem tabFree_yearText (padding : Padding) (year : Int) : TabFree (yearText padding year) := by
  rw [yearText]
  split
  · exact tabFree_padNumber (by decide) 4 padding _
  · refine tabFree_padNumber ?_ 5 padding _
    split <;> decide

/-- A character counted from the digit zero on is no tab, which comes before it. -/
theorem ofNat_zero_add_ne_tab (n : Nat) : Char.ofNat ('0'.toNat + n) ≠ '\t' := by
  intro h
  by_cases hvalid : ('0'.toNat + n).isValidChar
  · rw [Char.ofNat, dif_pos hvalid] at h
    have hcode : 48 + n = 9 := congrArg Char.toNat h
    omega
  · rw [Char.ofNat, dif_neg hvalid] at h
    cases h

theorem tabFree_twoPlaces (padding : Padding) (n : Nat) : TabFree (twoPlaces padding n) := by
  have hones := (ofNat_zero_add_ne_tab (n % 10)).symm
  have htens := (ofNat_zero_add_ne_tab (n / 10)).symm
  unfold twoPlaces
  dsimp only
  split
  · cases padding <;> simpa [TabFree] using hones
  · simpa [TabFree] using And.intro htens hones

theorem tabFree_quantity (padding : Padding) (m : Moment) (quantity : Quantity) :
    TabFree (quantity.render padding m) := by
  cases quantity with
  | year => exact tabFree_yearText padding _
  | weekYear => exact tabFree_yearText padding _
  | quarter => exact tabFree_repr _
  | weekdayFromSunday => exact tabFree_repr _
  | weekdayFromMonday => exact tabFree_repr _
  | dayOfYear => exact tabFree_padNumber (by decide) 3 padding _
  | nanosecond => exact tabFree_padNumber (by decide) 9 padding _
  | unixTime =>
    refine tabFree_padNumber ?_ 9 padding _
    rw [minusSign]
    split <;> decide
  | _ => exact tabFree_twoPlaces padding _

/-! ## Other elements -/

theorem tabFree_offset (east : Int) (form : OffsetForm) : TabFree (form.render east) := by
  have hsign : TabFree (if east < 0 then "-" else "+") := by split <;> decide
  have hcolon : TabFree ":" := by decide
  cases form <;> simp [OffsetForm.render, hsign, hcolon, tabFree_twoPlaces]

theorem tabFree_zoneName (east : Int) : TabFree (zoneName east) := by
  have hsign : TabFree (if east < 0 then "-" else "+") := by split <;> decide
  have hcolon : TabFree ":" := by decide
  have hseconds : TabFree (if east.natAbs % 60 = 0 then "" else
      ":" ++ twoPlaces .zero (east.natAbs % 60)) := by
    split
    · decide
    · simp [hcolon, tabFree_twoPlaces]
  simp [zoneName, hsign, hcolon, hseconds, tabFree_twoPlaces]

theorem tabFree_nameText {names : List String} (h : ∀ name ∈ names, TabFree name) (index : Nat)
    (short : Bool) : TabFree (nameText names index short) := by
  have hname : TabFree (names.getD index "") := by
    rw [List.getD_eq_getElem?_getD]
    cases hget : names[index]? with
    | none => decide
    | some name => exact h name (List.mem_of_getElem? hget)
  rw [nameText]
  cases short with
  | true =>
    rw [if_pos rfl, shortName, tabFree_ofList]
    exact fun hmem => hname (List.mem_of_mem_take hmem)
  | false => exact hname

/-- An element that is no literal tab shows none. -/
theorem tabFree_directive {directive : Directive} (h : directive ≠ .literal '\t') {m : Moment}
    {text : String} (ht : directive.render m = some text) : TabFree text := by
  cases directive with
  | literal c =>
    cases ht
    have hc : '\t' ≠ c := fun he => h (congrArg Directive.literal he.symm)
    simpa [TabFree] using hc
  | number quantity padding =>
    cases ht
    exact tabFree_quantity padding m quantity
  | monthName short =>
    cases ht
    exact tabFree_nameText (by decide) _ short
  | weekdayName short =>
    cases ht
    exact tabFree_nameText (by decide) _ short
  | halfDay upper =>
    cases ht
    split <;> decide
  | fraction digits point =>
    cases ht
    split
    · decide
    · have hpoint : TabFree (if point then "." else "") := by split <;> decide
      simpa using hpoint
  | offset form =>
    cases ht
    exact tabFree_offset m.east form
  | zoneName =>
    cases ht
    exact tabFree_zoneName m.east
  | offsetOnReading => cases ht

/-! ## Whole dates -/

theorem tabFree_render? {pattern : List Directive} (h : .literal '\t' ∉ pattern) {m : Moment}
    {text : String} (ht : render? m pattern = some text) : TabFree text := by
  induction pattern generalizing text with
  | nil =>
    cases ht
    decide
  | cons directive rest ih =>
    rw [List.mem_cons, not_or] at h
    obtain ⟨hfirst, hrest⟩ := h
    simp only [render?, List.mapM_cons, Option.map_eq_map, Option.map_eq_some_iff,
      Option.bind_eq_bind, Option.bind_eq_some_iff, Option.pure_def, Option.some.injEq] at ht ih
    obtain ⟨_, ⟨first, hshown, texts, htexts, rfl⟩, rfl⟩ := ht
    rw [String.join_cons, tabFree_append]
    exact ⟨tabFree_directive (Ne.symm hfirst) hshown, ih hrest ⟨texts, htexts, rfl⟩⟩

/-- A date has a tab only if its pattern has a literal one. -/
theorem tabFree_dateText {pattern : String}
    (h : ∀ directives, read pattern.toList = some directives → .literal '\t' ∉ directives)
    (east time : Int) : TabFree (dateText east pattern time) := by
  rw [dateText]
  split
  · have hempty : TabFree "" := by decide
    cases hread : read pattern.toList with
    | none => exact hempty
    | some directives =>
      rw [Option.bind_some]
      cases hshown : render? ⟨time, east⟩ directives with
      | none => exact hempty
      | some text => exact tabFree_render? (h directives hread) hshown
  · exact tabFree_int time

end Date

end EventLog
