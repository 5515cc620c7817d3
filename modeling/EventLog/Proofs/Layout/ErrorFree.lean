import EventLog.Proofs.Layout.Canonical

/-!
# The error-free patterns

`ErrorFree` is the language of the patterns in which every placeholder can be honoured: text, doubled
percent signs, placeholders of one known key that nothing behind them can be taken into, and such
placeholders with a sub-format in braces. Which date formats count as known is up to the calendar; of
it no more is assumed than that it accepts the format that `%d` has when it is given none.

A pattern is compiled without a fault exactly if it is in this language (`hasError_eq_false_iff`). By
the grammar of patterns it is enough to compare the segments one by one.

Such a pattern is compiled alike by a calendar that accepts more (`compileFor_eq_of_le`). So loggers
that are given no pattern have the same layout whatever the calendar, and it has no fault.
-/

namespace EventLog.Layout

/-- The keys of the placeholders. -/
def knownKeys : List Char := ['m', 'p', 'r', 'c', 't', 'n', 'd', 'f', 'l', 'T', 'F']

section

variable (accepts : String → Bool)

/-- A sub-format that the placeholder of a key takes. Only dates look at it. -/
def TakesSub (key : Char) (sub : List Char) : Prop :=
  '\x7d' ∉ sub ∧ (key = 'd' → sub = [] ∨ accepts (String.ofList sub) = true)

/-- The patterns in which every placeholder can be honoured. -/
inductive ErrorFree : List Char → Prop
  | nil : ErrorFree []
  | text {c : Char} {rest : List Char} : c ≠ '%' → ErrorFree rest → ErrorFree (c :: rest)
  | escape {rest : List Char} : ErrorFree rest → ErrorFree ('%' :: '%' :: rest)
  | bare {key : Char} {rest : List Char} : key ∈ knownKeys →
      (∀ c ∈ rest.head?, ¬ c.isAlpha ∧ c ≠ '\x7b' ∧ c ≠ '\x7d') → ErrorFree rest →
      ErrorFree ('%' :: key :: rest)
  | braced {key : Char} {sub rest : List Char} : key ∈ knownKeys → TakesSub accepts key sub →
      ErrorFree rest → ErrorFree ('%' :: key :: '\x7b' :: (sub ++ '\x7d' :: rest))

end

/-! ## Known keys -/

theorem mem_knownKeys_iff {key : Char} :
    key ∈ knownKeys ↔ key = 'd' ∨ ∃ f : Field, key = f.key := by
  constructor
  · intro h
    simp only [knownKeys, List.mem_cons, List.not_mem_nil, or_false] at h
    rcases h with rfl | rfl | rfl | rfl | rfl | rfl | rfl | rfl | rfl | rfl | rfl
    · exact .inr ⟨.message, rfl⟩
    · exact .inr ⟨.level, rfl⟩
    · exact .inr ⟨.elapse, rfl⟩
    · exact .inr ⟨.loggerName, rfl⟩
    · exact .inr ⟨.threadId, rfl⟩
    · exact .inr ⟨.newLine, rfl⟩
    · exact .inl rfl
    · exact .inr ⟨.fileName, rfl⟩
    · exact .inr ⟨.line, rfl⟩
    · exact .inr ⟨.tab, rfl⟩
    · exact .inr ⟨.fiberId, rfl⟩
  · rintro (rfl | ⟨f, rfl⟩)
    · decide
    · cases f <;> decide

theorem isKeyChar_of_mem_knownKeys {key : Char} (h : key ∈ knownKeys) : isKeyChar key = true := by
  rcases mem_knownKeys_iff.1 h with rfl | ⟨f, rfl⟩
  · decide
  · exact isKeyChar_key f

/-! ## Segments without a fault -/

section

variable {accepts : String → Bool}

theorem accepts_datePattern_iff (hdefault : accepts defaultDatePattern = true) (sub : List Char) :
    accepts (datePattern sub) = true ↔ sub = [] ∨ accepts (String.ofList sub) = true := by
  by_cases h : sub = []
  · simp [datePattern, h, hdefault]
  · simp [datePattern, h]

/-- A placeholder can be honoured exactly if its key is known and takes the sub-format. -/
theorem resolve_snd_eq_false_iff (hdefault : accepts defaultDatePattern = true)
    {key sub : List Char} (hsub : '\x7d' ∉ sub) :
    (Item.resolve accepts key sub).2 = false ↔
      ∃ k ∈ knownKeys, key = [k] ∧ TakesSub accepts k sub := by
  constructor
  · intro h
    obtain ⟨item, hmeans⟩ : ∃ item, Placeholder accepts key sub item false :=
      ⟨_, placeholder_iff.2 (Prod.ext rfl h)⟩
    cases hmeans with
    | field f =>
      exact ⟨f.key, mem_knownKeys_iff.2 (.inr ⟨f, rfl⟩), rfl, hsub,
        fun hd => absurd hd f.key_ne_date⟩
    | date ha =>
      exact ⟨'d', mem_knownKeys_iff.2 (.inl rfl), rfl, hsub,
        fun _ => (accepts_datePattern_iff hdefault sub).1 ha⟩
  · rintro ⟨k, hk, rfl, -, htakes⟩
    rcases mem_knownKeys_iff.1 hk with rfl | ⟨f, rfl⟩
    · rw [Item.resolve_date, if_pos ((accepts_datePattern_iff hdefault sub).2 (htakes rfl))]
    · rw [Item.resolve_field]

/-- Without a sub-format every known key can be honoured. -/
theorem takesSub_nil (key : Char) : TakesSub accepts key [] := ⟨List.not_mem_nil, fun _ => .inl rfl⟩

/-- An error-free pattern is read as segments without a fault. -/
theorem ErrorFree.exists_segmentation {pattern : List Char} (h : ErrorFree accepts pattern)
    (hdefault : accepts defaultDatePattern = true) :
    ∃ segments, Segmentation pattern segments ∧
      ∀ s ∈ segments, s.isFaulty accepts = false := by
  induction h with
  | nil => exact ⟨[], .nil, List.forall_mem_nil _⟩
  | @text c rest hc _ ih =>
    obtain ⟨segments, hread, hall⟩ := ih
    have hstands : (Segment.text c).StandsBefore rest := hc
    exact ⟨.text c :: segments, .cons hstands hread, List.forall_mem_cons.2 ⟨rfl, hall⟩⟩
  | @escape rest _ ih =>
    obtain ⟨segments, hread, hall⟩ := ih
    have hstands : Segment.escape.StandsBefore rest := trivial
    exact ⟨.escape :: segments, .cons hstands hread, List.forall_mem_cons.2 ⟨rfl, hall⟩⟩
  | @bare key rest hkey hrest _ ih =>
    obtain ⟨segments, hread, hall⟩ := ih
    have hstands : (Segment.bare [key]).StandsBefore rest := by
      refine ⟨by simpa using isKeyChar_of_mem_knownKeys hkey, fun c hc => ?_⟩
      obtain ⟨halpha, hopen, hclose⟩ := hrest c hc
      exact ⟨by simpa [isKeyChar, hclose] using halpha, hopen, fun hnil => by cases hnil⟩
    have hfaulty : (Segment.bare [key]).isFaulty accepts = false :=
      (resolve_snd_eq_false_iff hdefault List.not_mem_nil).2 ⟨key, hkey, rfl, takesSub_nil key⟩
    exact ⟨.bare [key] :: segments, .cons hstands hread, List.forall_mem_cons.2 ⟨hfaulty, hall⟩⟩
  | @braced key sub rest hkey hsub _ ih =>
    obtain ⟨segments, hread, hall⟩ := ih
    have hstands : (Segment.braced [key] sub).StandsBefore rest :=
      ⟨by simpa using isKeyChar_of_mem_knownKeys hkey, hsub.1⟩
    have hfaulty : (Segment.braced [key] sub).isFaulty accepts = false :=
      (resolve_snd_eq_false_iff hdefault hsub.1).2 ⟨key, hkey, rfl, hsub⟩
    refine ⟨.braced [key] sub :: segments, ?_, List.forall_mem_cons.2 ⟨hfaulty, hall⟩⟩
    have hsource : (Segment.braced [key] sub).source ++ rest =
        '%' :: key :: '\x7b' :: (sub ++ '\x7d' :: rest) := by
      simp [Segment.source]
    rw [← hsource]
    exact .cons hstands hread

/-- Segments without a fault spell an error-free pattern. -/
theorem Segmentation.errorFree {pattern : List Char} {segments : List Segment}
    (h : Segmentation pattern segments) (hdefault : accepts defaultDatePattern = true)
    (hall : ∀ s ∈ segments, s.isFaulty accepts = false) : ErrorFree accepts pattern := by
  induction h with
  | nil => exact .nil
  | @cons s rest segments hstands _ ih =>
    rw [List.forall_mem_cons] at hall
    obtain ⟨hfaulty, hall⟩ := hall
    have hrest := ih hall
    cases s with
    | text c => exact .text hstands hrest
    | escape => exact .escape hrest
    | bare key =>
      obtain ⟨k, hk, rfl, -⟩ := (resolve_snd_eq_false_iff hdefault List.not_mem_nil).1 hfaulty
      refine .bare hk (fun c hc => ?_) hrest
      obtain ⟨hkeyChar, hopen, -⟩ := hstands.2 c hc
      simp only [isKeyChar, Bool.or_eq_true, beq_iff_eq, not_or] at hkeyChar
      exact ⟨hkeyChar.1, hopen, hkeyChar.2⟩
    | braced key sub =>
      obtain ⟨k, hk, rfl, hsub⟩ := (resolve_snd_eq_false_iff hdefault hstands.2).1 hfaulty
      have hsource : (Segment.braced [k] sub).source ++ rest =
          '%' :: k :: '\x7b' :: (sub ++ '\x7d' :: rest) := by
        simp [Segment.source]
      rw [hsource]
      exact .braced hk hsub hrest
    | dangling key sub => cases hfaulty

/-- A pattern is compiled without a fault exactly if it is error-free. -/
theorem hasError_eq_false_iff (hdefault : accepts defaultDatePattern = true) (pattern : String) :
    (compileFor accepts pattern).hasError = false ↔ ErrorFree accepts pattern.toList := by
  rw [hasError_compileFor, List.any_eq_false]
  simp only [Bool.not_eq_true]
  constructor
  · exact (segmentation_segments pattern.toList).errorFree hdefault
  · intro h
    -- There is one way to read the pattern, so it is read without a fault.
    obtain ⟨segments, hread, hall⟩ := h.exists_segmentation hdefault
    rw [← hread.eq_segments]
    exact hall

end

/-! ## Calendars that accept more -/

section

variable {accepts accepts' : String → Bool}
  (hle : ∀ pattern, accepts pattern = true → accepts' pattern = true)

include hle

/-- What is honoured by a calendar is honoured alike by one that accepts more. -/
theorem Segment.Means.mono {s : Segment} {item : Item} (h : s.Means accepts item false) :
    s.Means accepts' item false := by
  have hplaceholder : ∀ {key sub : List Char}, Placeholder accepts key sub item false →
      Placeholder accepts' key sub item false := by
    intro key sub h
    cases h with
    | field f => exact .field f sub
    | date ha => exact .date (hle _ ha)
  cases h with
  | bare h => exact .bare (hplaceholder h)
  | braced h => exact .braced (hplaceholder h)

theorem Compiles.mono {segments : List Segment} {items : List Item}
    (h : Compiles accepts segments items) (hall : ∀ s ∈ segments, s.isFaulty accepts = false) :
    Compiles accepts' segments items := by
  induction h with
  | nil => exact .nil
  | run hne htext hrest _ ih =>
    exact .run hne htext hrest (ih fun s hs => hall s (List.mem_append_right _ hs))
  | placeholder hmeans _ ih =>
    rw [List.forall_mem_cons] at hall
    cases (Segment.means_iff.1 hmeans).2.2.symm.trans hall.1
    exact .placeholder (hmeans.mono hle) (ih hall.2)

/-- A pattern that is compiled without a fault is compiled into the same layout by a calendar that
accepts more. -/
theorem compileFor_eq_of_le {pattern : String} (h : (compileFor accepts pattern).hasError = false) :
    compileFor accepts' pattern = compileFor accepts pattern := by
  have hall : ∀ s ∈ segments pattern.toList, s.isFaulty accepts = false := by
    simpa [hasError_compileFor] using h
  have hitems : (compileFor accepts' pattern).items = (compileFor accepts pattern).items := by
    rw [items_compileFor, items_compileFor]
    exact ((compiles_iff accepts').1 (((compiles_iff accepts).2 rfl).mono hle hall)).symm
  have herror : (compileFor accepts' pattern).hasError = false := by
    rw [hasError_compileFor, List.any_eq_false]
    intro s hs
    rw [Bool.not_eq_true]
    cases hchar : s.char? with
    | none =>
      have hmeans : s.Means accepts (s.item accepts) false :=
        Segment.means_iff.2 ⟨hchar, rfl, hall s hs⟩
      exact (Segment.means_iff.1 (hmeans.mono hle)).2.2
    | some c => cases s <;> first | rfl | cases hchar
  exact congrArg₂ (Layout.mk pattern) hitems (herror.trans h.symm)

end

/-! ## Any calendar -/

section

variable [Calendar]

theorem hasError_compile_eq_false_iff (pattern : String) :
    (compile pattern).hasError = false ↔ ErrorFree Calendar.accepts pattern.toList :=
  hasError_eq_false_iff Calendar.accepts_bare pattern

/-- The layout of a logger that was given none is the same for every calendar. -/
theorem compile_defaultPattern : compile defaultPattern = default := by
  -- The date pattern in it is one that every calendar accepts.
  let least : String → Bool := fun pattern => pattern == "%Y-%m-%d %H:%M:%S"
  have hleast : (compileFor least defaultPattern).hasError = false := by decide +kernel
  have hsame : default = compileFor least defaultPattern := by decide +kernel
  have hle : ∀ pattern, least pattern = true → Calendar.accepts pattern = true := by
    intro pattern h
    rw [beq_iff_eq.1 h]
    exact Calendar.accepts_stamp
  rw [hsame]
  exact compileFor_eq_of_le hle hleast

/-- It is error-free. -/
theorem hasError_defaultPattern : (compile defaultPattern).hasError = false := by
  rw [compile_defaultPattern]
  decide +kernel

end

end EventLog.Layout
