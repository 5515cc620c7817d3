import EventLog.Layout.Segment
import Mathlib.Data.List.TakeWhile

/-!
# The grammar of patterns

`Segmentation pattern segments` says that a pattern is read as a sequence of segments. It is the
grammar of layouts: it speaks of the characters that a segment is written with and of what may stand
behind it, and of nothing that a scanner does.

`segments` reads a pattern in the library's operators, one segment after the other, by the longest
run that a key or a sub-format can be. `segmentation_iff` says that this is the only way to read it,
so every pattern has one segmentation and no other.
-/

namespace EventLog.Layout

/-- The characters of a sub-format. -/
def isSubChar (c : Char) : Bool := c != '\x7d'

namespace Segment

/-- A segment is well-formed, and what stands behind it does not belong to it. -/
def StandsBefore (rest : List Char) : Segment → Prop
  | text c => c ≠ '%'
  | escape => True
  | bare key =>
    (∀ c ∈ key, isKeyChar c) ∧
      ∀ c ∈ rest.head?, ¬ isKeyChar c ∧ c ≠ '\x7b' ∧ (key = [] → c ≠ '%')
  | braced key sub => (∀ c ∈ key, isKeyChar c) ∧ '\x7d' ∉ sub
  | dangling key sub => (∀ c ∈ key, isKeyChar c) ∧ '\x7d' ∉ sub ∧ rest = []

end Segment

/-- A pattern is read from left to right as a sequence of segments. -/
inductive Segmentation : List Char → List Segment → Prop
  | nil : Segmentation [] []
  | cons {s : Segment} {rest : List Char} {segments : List Segment} :
      s.StandsBefore rest → Segmentation rest segments →
      Segmentation (s.source ++ rest) (s :: segments)

/-- The segments of a pattern spell it. -/
theorem Segmentation.flatMap_source {pattern : List Char} {segments : List Segment}
    (h : Segmentation pattern segments) : segments.flatMap Segment.source = pattern := by
  induction h with
  | nil => rfl
  | cons _ _ ih => rw [List.flatMap_cons, ih]

/-! ## Reading segment by segment -/

namespace Segment

/-- The placeholder that follows a percent sign, and what comes after it. -/
def placeholder (rest : List Char) : Segment × List Char :=
  let key := rest.takeWhile isKeyChar
  match rest.dropWhile isKeyChar with
  | [] => (bare key, [])
  | c :: more =>
    if c = '\x7b' then
      let sub := more.takeWhile isSubChar
      match more.dropWhile isSubChar with
      | [] => (dangling key sub, [])
      | _ :: after => (braced key sub, after)
    else (bare key, c :: more)

/-- The first segment of a pattern that starts with `c`, and what comes after it. -/
def first (c : Char) (rest : List Char) : Segment × List Char :=
  if c ≠ '%' then (text c, rest)
  else if rest.head? = some '%' then (escape, rest.tail)
  else placeholder rest

theorem source_placeholder (rest : List Char) :
    (placeholder rest).1.source ++ (placeholder rest).2 = '%' :: rest := by
  have hkey := List.takeWhile_append_dropWhile (p := isKeyChar) (l := rest)
  unfold placeholder
  split
  · next h => simpa [source, h] using hkey
  · next c more h =>
    rw [h] at hkey
    split
    · next hc =>
      -- What stops a sub-format is a closing brace, which is part of the segment.
      subst hc
      have hsub := List.takeWhile_append_dropWhile (p := isSubChar) (l := more)
      split
      · next hs =>
        rw [hs, List.append_nil] at hsub
        simpa [source, hsub] using hkey
      · next d after hs =>
        have hd : d = '\x7d' := by
          have := List.head?_dropWhile_not isSubChar more
          simpa [hs, isSubChar] using this
        rw [hs, hd] at hsub
        simpa [source, hsub] using hkey
    · simpa [source] using hkey

theorem source_first (c : Char) (rest : List Char) :
    (first c rest).1.source ++ (first c rest).2 = c :: rest := by
  unfold first
  split
  · rfl
  · next hc =>
    rw [not_not] at hc
    subst hc
    split
    · next hrest =>
      obtain ⟨more, rfl⟩ := List.head?_eq_some_iff.1 hrest
      rfl
    · exact source_placeholder rest

theorem length_first (c : Char) (rest : List Char) :
    (first c rest).2.length < (c :: rest).length := by
  have h := congrArg List.length (source_first c rest)
  have := List.length_pos_iff.2 (source_ne_nil (first c rest).1)
  simp only [List.length_append] at h
  omega

end Segment

/-- The segments of a pattern. -/
def segments : List Char → List Segment
  | [] => []
  | c :: rest => (Segment.first c rest).1 :: segments (Segment.first c rest).2
termination_by pattern => pattern.length
decreasing_by exact Segment.length_first c rest

/-! ## What is read stands where the grammar wants it -/

/-- A run of characters of some kind, up to a character that is not of the kind. -/
theorem takeWhile_run {p : Char → Bool} {run rest : List Char} (h : ∀ c ∈ run, p c)
    (hr : ∀ c ∈ rest.head?, ¬ p c) : (run ++ rest).takeWhile p = run := by
  rw [List.takeWhile_append_of_pos h]
  cases rest with
  | nil => simp
  | cons c more =>
    have hc : ¬ p c := hr c rfl
    rw [List.takeWhile_cons_of_neg hc, List.append_nil]

theorem dropWhile_run {p : Char → Bool} {run rest : List Char} (h : ∀ c ∈ run, p c)
    (hr : ∀ c ∈ rest.head?, ¬ p c) : (run ++ rest).dropWhile p = rest := by
  rw [List.dropWhile_append_of_pos h]
  cases rest with
  | nil => rfl
  | cons c more =>
    have hc : ¬ p c := hr c rfl
    exact List.dropWhile_cons_of_neg hc

theorem all_takeWhile {p : Char → Bool} (l : List Char) : ∀ c ∈ l.takeWhile p, p c :=
  fun _ hc => List.mem_takeWhile_imp hc

theorem not_mem_takeWhile_isSubChar (l : List Char) : '\x7d' ∉ l.takeWhile isSubChar := by
  intro h
  have := all_takeWhile l '\x7d' h
  simp [isSubChar] at this

namespace Segment

theorem standsBefore_placeholder {rest : List Char} (h : rest.head? ≠ some '%') :
    (placeholder rest).1.StandsBefore (placeholder rest).2 := by
  have hkey : ∀ c ∈ rest.takeWhile isKeyChar, isKeyChar c := all_takeWhile rest
  unfold placeholder
  split
  · exact ⟨hkey, by simp⟩
  · next c more hd =>
    split
    · split
      · exact ⟨hkey, not_mem_takeWhile_isSubChar more, rfl⟩
      · exact ⟨hkey, not_mem_takeWhile_isSubChar more⟩
    · next hc =>
      refine ⟨hkey, ?_⟩
      rintro d ⟨⟩
      refine ⟨?_, hc, ?_⟩
      · have := List.head?_dropWhile_not isKeyChar rest
        simpa [hd] using this
      · -- An empty key stops at the first character, which is not a second percent sign.
        rintro hnil rfl
        rw [← List.takeWhile_append_dropWhile (p := isKeyChar) (l := rest), hnil, hd] at h
        exact h rfl

theorem standsBefore_first (c : Char) (rest : List Char) :
    (first c rest).1.StandsBefore (first c rest).2 := by
  unfold first
  split
  · next hc => exact hc
  · split
    · trivial
    · next h => exact standsBefore_placeholder h

/-! ## What the grammar wants is read -/

theorem placeholder_bare {key rest : List Char} (h : (bare key).StandsBefore rest) :
    placeholder (key ++ rest) = (bare key, rest) := by
  obtain ⟨hkey, hrest⟩ := h
  have hstop : ∀ c ∈ rest.head?, ¬ isKeyChar c := fun c hc => (hrest c hc).1
  simp only [placeholder, takeWhile_run hkey hstop, dropWhile_run hkey hstop]
  cases rest with
  | nil => rfl
  | cons c more => simp [(hrest c rfl).2.1]

theorem not_isKeyChar_brace : ¬ isKeyChar '\x7b' := by decide

/-- A key ends before an opening brace. -/
theorem key_stops_at_brace (rest : List Char) :
    ∀ c ∈ ('\x7b' :: rest).head?, ¬ isKeyChar c := by
  rintro c ⟨⟩
  exact not_isKeyChar_brace

theorem all_isSubChar {sub : List Char} (h : '\x7d' ∉ sub) : ∀ c ∈ sub, isSubChar c := by
  intro c hc
  have hne : c ≠ '\x7d' := fun he => h (he ▸ hc)
  simpa [isSubChar] using hne

theorem placeholder_braced {key sub : List Char} (hkey : ∀ c ∈ key, isKeyChar c)
    (hsub : '\x7d' ∉ sub) (rest : List Char) :
    placeholder (key ++ '\x7b' :: (sub ++ '\x7d' :: rest)) = (braced key sub, rest) := by
  have hstop := key_stops_at_brace (sub ++ '\x7d' :: rest)
  have hall := all_isSubChar hsub
  have hend : ∀ c ∈ ('\x7d' :: rest).head?, ¬ isSubChar c := by
    rintro c ⟨⟩
    decide
  simp only [placeholder, takeWhile_run hkey hstop, dropWhile_run hkey hstop,
    takeWhile_run hall hend, dropWhile_run hall hend, if_true]

theorem placeholder_dangling {key sub : List Char} (hkey : ∀ c ∈ key, isKeyChar c)
    (hsub : '\x7d' ∉ sub) :
    placeholder (key ++ '\x7b' :: sub) = (dangling key sub, []) := by
  have hstop := key_stops_at_brace sub
  have hall := all_isSubChar hsub
  have htake : sub.takeWhile isSubChar = sub := List.takeWhile_eq_self_iff.2 hall
  have hdrop : sub.dropWhile isSubChar = [] := List.dropWhile_eq_nil_iff.2 hall
  simp only [placeholder, takeWhile_run hkey hstop, dropWhile_run hkey hstop, htake, hdrop, if_true]

/-- Behind the percent sign of a placeholder stands no second one. -/
theorem head?_key_append {key rest : List Char} (hkey : ∀ c ∈ key, isKeyChar c)
    (hrest : key = [] → rest.head? ≠ some '%') : (key ++ rest).head? ≠ some '%' := by
  cases key with
  | nil => exact hrest rfl
  | cons c more =>
    rintro ⟨⟩
    exact absurd (hkey '%' (List.mem_cons_self)) (by decide)

/-- A segment that stands before the rest of a pattern is read as it is. -/
theorem first_of_standsBefore {s : Segment} {rest : List Char} (h : s.StandsBefore rest) :
    ∃ c more, s.source ++ rest = c :: more ∧ first c more = (s, rest) := by
  cases s with
  | text c => exact ⟨c, rest, rfl, if_pos h⟩
  | escape => exact ⟨'%', '%' :: rest, rfl, rfl⟩
  | bare key =>
    have hhead : (key ++ rest).head? ≠ some '%' :=
      head?_key_append h.1 fun hnil hc => (h.2 '%' hc).2.2 hnil rfl
    refine ⟨'%', key ++ rest, rfl, ?_⟩
    rw [first, if_neg (not_not.2 rfl), if_neg hhead, placeholder_bare h]
  | braced key sub =>
    have hhead : (key ++ '\x7b' :: (sub ++ '\x7d' :: rest)).head? ≠ some '%' :=
      head?_key_append h.1 fun _ => by simp
    refine ⟨'%', key ++ '\x7b' :: (sub ++ '\x7d' :: rest), by simp [source], ?_⟩
    rw [first, if_neg (not_not.2 rfl), if_neg hhead, placeholder_braced h.1 h.2]
  | dangling key sub =>
    obtain ⟨hkey, hsub, rfl⟩ := h
    have hhead : (key ++ '\x7b' :: sub).head? ≠ some '%' :=
      head?_key_append hkey fun _ => by simp
    refine ⟨'%', key ++ '\x7b' :: sub, by simp [source], ?_⟩
    rw [first, if_neg (not_not.2 rfl), if_neg hhead, placeholder_dangling hkey hsub]

end Segment

/-! ## One segmentation and no other -/

theorem segmentation_segments (pattern : List Char) : Segmentation pattern (segments pattern) := by
  fun_induction segments pattern with
  | case1 => exact .nil
  | case2 c rest ih =>
    rw [← Segment.source_first c rest]
    exact .cons (Segment.standsBefore_first c rest) ih

theorem Segmentation.eq_segments {pattern : List Char} {read : List Segment}
    (h : Segmentation pattern read) : read = segments pattern := by
  induction h with
  | nil => rw [segments]
  | cons hs _ ih =>
    obtain ⟨c, more, hsource, hfirst⟩ := Segment.first_of_standsBefore hs
    rw [hsource, segments, hfirst, ← ih]

/-- A pattern is read as its segments, and as nothing else. -/
theorem segmentation_iff {pattern : List Char} {read : List Segment} :
    Segmentation pattern read ↔ read = segments pattern := by
  constructor
  · exact Segmentation.eq_segments
  · rintro rfl
    exact segmentation_segments pattern

end EventLog.Layout
