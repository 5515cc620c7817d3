import EventLog.Proofs.Layout.Scan

/-!
# The places of a pass

The pass over a pattern works on places, and nothing but the order of what happens keeps these in the
pattern: where a sub-format ends, say, is noted only when the closing brace is met, and is zero until
then. `turns` tells the turns of a pass one by one, with every place that the probe of a placeholder
comes to and what has been noted there; the pass takes in the segments of its turns and does nothing
else (`scanFrom_eq_turns`).

In every turn all places lie in the pattern, and what is cut out of it is a range of it
(`turns_in_pattern`). What one character does is `Probe.Running.read`; the rest is by induction along
the run of a probe, and along the turns.
-/

namespace EventLog.Layout

/-! ## The steps of a probe -/

/-- How a placeholder is read: the places that its probe comes to, each with what has been noted before
the character there is read, and where the probe stops with what it has noted. -/
structure Reading where
  steps : List (Nat × Probe)
  stop : Nat
  noted : Probe

/-- Reads on from place `n` as `Probe.run` does. -/
def Probe.reading (chars : Array Char) (n : Nat) (p : Probe) : Reading :=
  if h : n < chars.size then
    match p.read n chars[n] with
    | .yield q =>
      let rest := q.reading chars (n + 1)
      { rest with steps := (n, p) :: rest.steps }
    | .done q => ⟨[(n, p)], n, q⟩
  else ⟨[], n, p⟩
termination_by chars.size - n

theorem Probe.run_eq_reading (chars : Array Char) (n : Nat) (p : Probe) :
    p.run chars n = ((p.reading chars n).stop, (p.reading chars n).noted) := by
  fun_induction Probe.reading chars n p with
  | case1 n p hn q hq rest ih => exact (run_of_yield hq).trans ih
  | case2 n p hn q hq => exact run_of_done hq
  | case3 n p hn => exact run_of_size_le (Nat.le_of_not_lt hn)

/-- A placeholder whose key starts at `first` is read within a pattern of some size: the probe comes to
the characters from there to where it stops, all of them in the pattern and none behind the closing
brace, and the key and what there is of a sub-format are ranges of the pattern. -/
structure Reading.Within (first size : Nat) (r : Reading) : Prop where
  places : r.steps.map Prod.fst = List.range' first (min (r.stop + 1) size - first)
  steps : ∀ step ∈ r.steps, first ≤ step.1 ∧ step.1 < size ∧ step.2.phase ≠ .closed
  stop : first ≤ r.stop ∧ r.stop ≤ size
  key : first ≤ min r.noted.keyEnd r.stop ∧ min r.noted.keyEnd r.stop ≤ size
  unclosed : r.noted.phase = .sub → r.noted.subStart ≤ size
  sub : r.noted.phase = .closed → r.noted.subStart ≤ r.noted.subEnd ∧ r.noted.subEnd ≤ size

/-- A probe comes to each place from where it starts to where it stops, in order. -/
theorem Probe.places_reading {chars : Array Char} {n : Nat} (p : Probe) (h : n ≤ chars.size) :
    n ≤ (p.reading chars n).stop ∧
      (p.reading chars n).steps.map Prod.fst =
        List.range' n (min ((p.reading chars n).stop + 1) chars.size - n) := by
  fun_induction Probe.reading chars n p with
  | case1 n p hn q hq rest ih =>
    obtain ⟨hstop, hplaces⟩ := ih hn
    have hcount : min ((q.reading chars (n + 1)).stop + 1) chars.size - n =
        min ((q.reading chars (n + 1)).stop + 1) chars.size - (n + 1) + 1 := by
      omega
    refine ⟨Nat.le_of_succ_le hstop, ?_⟩
    rw [List.map_cons, hplaces, hcount, List.range'_succ]
  | case2 n p hn q hq =>
    have hcount : min (n + 1) chars.size - n = 1 := by omega
    exact ⟨Nat.le_refl n, by rw [hcount]; rfl⟩
  | case3 n p hn =>
    have hcount : min (n + 1) chars.size - n = 0 := by omega
    exact ⟨Nat.le_refl n, by rw [hcount]; rfl⟩

/-- Wherever a probe comes to, it is still going on, and its places lie in order. -/
theorem Probe.Running.reading {chars : Array Char} {first n : Nat} {p : Probe}
    (h : Running first n chars.size p) :
    ∀ step ∈ (p.reading chars n).steps,
      step.1 < chars.size ∧ Running first step.1 chars.size step.2 := by
  fun_induction Probe.reading chars n p with
  | case1 n p hn q hq rest ih =>
    have hnext := h.read hn chars[n]
    rw [hq] at hnext
    exact List.forall_mem_cons.2 ⟨⟨hn, h⟩, ih hnext⟩
  | case2 n p hn q hq => exact List.forall_mem_cons.2 ⟨⟨hn, h⟩, List.forall_mem_nil _⟩
  | case3 n p hn => exact List.forall_mem_nil _

/-- A placeholder is read within its pattern. -/
theorem within_reading {chars : Array Char} {first : Nat} (h : first ≤ chars.size) :
    ((Probe.start chars).reading chars first).Within first chars.size := by
  have hrunning := Probe.running_start h
  have hstop := hrunning.run
  rw [Probe.run_eq_reading] at hstop
  refine ⟨((Probe.start chars).places_reading h).2, fun step hstep => ?_,
    ⟨hstop.first_le, hstop.le_size⟩, hstop.key_le, hstop.subStart_le, hstop.sub_le⟩
  obtain ⟨hlt, hstill⟩ := hrunning.reading step hstep
  exact ⟨hstill.first_le, hlt, hstill.not_closed⟩

/-! ## The turns of a pass -/

/-- One turn of a pass: the place where it starts, the reading of the placeholder if one starts there,
the segment that is taken in, and the place after it. -/
structure Turn where
  start : Nat
  reading? : Option Reading
  segment : Segment
  next : Nat

/-- How the placeholder at a place is read, if one starts there. -/
def readingAt? (chars : Array Char) (i : Nat) (h : i < chars.size) : Option Reading :=
  if chars[i] ≠ '%' then none
  else if chars[i + 1]? = some '%' then none
  else some ((Probe.start chars).reading chars (i + 1))

theorem readingAt?_eq_some {chars : Array Char} {i : Nat} {h : i < chars.size} {r : Reading}
    (hr : readingAt? chars i h = some r) :
    r = (Probe.start chars).reading chars (i + 1) ∧
      segmentAt? chars i h = cut? chars (i + 1) r.stop r.noted := by
  unfold readingAt? at hr
  split at hr
  · cases hr
  · next htext =>
    split at hr
    · cases hr
    · next hescape =>
      cases hr
      refine ⟨rfl, ?_⟩
      rw [segmentAt?, if_neg htext, if_neg hescape, Probe.run_eq_reading]

/-- Where no placeholder is read, a character is taken in. -/
theorem isSome_char?_of_readingAt? {chars : Array Char} {i j : Nat} {h : i < chars.size} {s : Segment}
    (hr : readingAt? chars i h = none) (hs : segmentAt? chars i h = some (s, j)) :
    s.char?.isSome = true := by
  unfold readingAt? at hr
  unfold segmentAt? at hs
  split at hr
  · next htext =>
    rw [if_pos htext] at hs
    cases hs
    rfl
  · next htext =>
    split at hr
    · next hescape =>
      rw [if_neg htext, if_pos hescape] at hs
      cases hs
      rfl
    · cases hr

/-- A turn takes in the segment that stands in the pattern where it starts. -/
def Turn.Stands (chars : Array Char) (turn : Turn) : Prop :=
  ∃ h : turn.start < chars.size,
    segmentAt? chars turn.start h = some (turn.segment, turn.next) ∧
      turn.reading? = readingAt? chars turn.start h

/-- The turns of a pass from a place on. -/
def turnsFrom (chars : Array Char) (i : Nat) : List Turn :=
  if h : i < chars.size then
    match _hs : segmentAt? chars i h with
    | some (s, j) => ⟨i, readingAt? chars i h, s, j⟩ :: turnsFrom chars j
    | none => []
  else []
termination_by chars.size - i
decreasing_by have := le_of_segmentAt? _hs; omega

/-- The turns of the pass over a pattern. -/
def turns (chars : Array Char) : List Turn := turnsFrom chars 0

section

variable {chars : Array Char} {i j : Nat} {s : Segment}

theorem turnsFrom_of_segmentAt? {h : i < chars.size} (hs : segmentAt? chars i h = some (s, j)) :
    turnsFrom chars i = ⟨i, readingAt? chars i h, s, j⟩ :: turnsFrom chars j := by
  rw [turnsFrom, dif_pos h]
  split
  · next t k ht =>
    rw [hs] at ht
    cases ht
    rfl
  · next ht =>
    rw [hs] at ht
    cases ht

theorem turnsFrom_of_size_le (h : chars.size ≤ i) : turnsFrom chars i = [] := by
  rw [turnsFrom, dif_neg (by omega)]

/-- What holds at the end of a pattern, and of each turn with the turns after it if it holds of these,
holds of the turns from any place on. -/
theorem turnsFrom_induction {motive : Nat → List Turn → Prop} (stop : motive chars.size [])
    (step : ∀ {i j s rest} (h : i < chars.size), segmentAt? chars i h = some (s, j) → motive j rest →
      motive i (⟨i, readingAt? chars i h, s, j⟩ :: rest))
    (h : i ≤ chars.size) : motive i (turnsFrom chars i) := by
  fun_induction turnsFrom chars i with
  | case1 i hi s j hs ih => exact step hi hs (ih (le_of_segmentAt? hs).2)
  | case2 i hi hs => exact absurd hs (segmentAt?_ne_none hi)
  | case3 i hi =>
    have hend : i = chars.size := by omega
    rwa [hend]

theorem stands_of_mem_turnsFrom (h : i ≤ chars.size) :
    ∀ turn ∈ turnsFrom chars i, turn.Stands chars := by
  refine turnsFrom_induction (motive := fun _ turns => ∀ turn ∈ turns, turn.Stands chars)
    (List.forall_mem_nil _) (fun hi hs ih => ?_) h
  exact List.forall_mem_cons.2 ⟨⟨hi, hs, rfl⟩, ih⟩

/-- The first turn starts where the pass does, each next one where the one before it ends, and the last
ends where the pattern ends. -/
theorem start_next_turnsFrom (h : i ≤ chars.size) :
    (turnsFrom chars i).map Turn.start ++ [chars.size] = i :: (turnsFrom chars i).map Turn.next := by
  refine turnsFrom_induction
    (motive := fun i turns => turns.map Turn.start ++ [chars.size] = i :: turns.map Turn.next)
    rfl (fun hi hs ih => ?_) h
  rw [List.map_cons, List.map_cons, List.cons_append, ih]

/-- There are no more turns than characters. -/
theorem length_turnsFrom (h : i ≤ chars.size) : i + (turnsFrom chars i).length ≤ chars.size := by
  refine turnsFrom_induction (motive := fun i turns => i + turns.length ≤ chars.size)
    (Nat.le_refl _) (fun hi hs ih => ?_) h
  have hlt := (le_of_segmentAt? hs).1
  rw [List.length_cons]
  omega

end

/-- The pass takes in the segments of its turns, and comes to its end. -/
theorem scanFrom_eq_turns (accepts : String → Bool) (chars : Array Char) (i : Nat) (d : Draft) :
    scanFrom accepts chars i d =
      some (((turnsFrom chars i).map Turn.segment).foldl (Draft.add accepts) d).flush := by
  fun_induction scanFrom accepts chars i d with
  | case1 i d hi s j hs ih => rw [turnsFrom_of_segmentAt? hs, List.map_cons, List.foldl_cons, ih]
  | case2 i d hi hs => exact absurd hs (segmentAt?_ne_none hi)
  | case3 i d hi => rw [turnsFrom_of_size_le (by omega), List.map_nil, List.foldl_nil]

/-- In every turn of the pass over a pattern all places lie in the pattern. A turn ends behind its
start, and no later than the pattern. It takes in a character, or reads a placeholder: then the probe
comes to the characters behind the percent sign one by one, to none behind the closing brace or the
pattern, and the places that it notes are ranges of the pattern, from which the segment is cut. The
turns follow each other from the start of the pattern to its end; they are no more than the
characters, and the pass takes in their segments. -/
theorem turns_in_pattern (accepts : String → Bool) (pattern : String) :
    let chars := pattern.toList.toArray
    (∀ turn ∈ turns chars, turn.start < turn.next ∧ turn.next ≤ chars.size ∧
      (turn.reading? = none → turn.segment.char?.isSome = true) ∧
      ∀ reading ∈ turn.reading?, reading.Within (turn.start + 1) chars.size ∧
        cut? chars (turn.start + 1) reading.stop reading.noted =
          some (turn.segment, turn.next)) ∧
    (turns chars).map Turn.start ++ [chars.size] = 0 :: (turns chars).map Turn.next ∧
    (turns chars).length ≤ chars.size ∧
    scanFrom accepts chars 0 {} =
      some (((turns chars).map Turn.segment).foldl (Draft.add accepts) {}).flush := by
  intro chars
  have hstart : 0 ≤ chars.size := Nat.zero_le _
  refine ⟨fun turn hturn => ?_, start_next_turnsFrom hstart, ?_, scanFrom_eq_turns accepts chars 0 {}⟩
  · obtain ⟨hi, hs, hreading⟩ := stands_of_mem_turnsFrom hstart turn hturn
    obtain ⟨hlt, hle⟩ := le_of_segmentAt? hs
    refine ⟨hlt, hle, fun hr => isSome_char?_of_readingAt? (hreading.symm.trans hr) hs,
      fun reading hr => ?_⟩
    obtain ⟨rfl, hcut⟩ := readingAt?_eq_some (hreading.symm.trans hr)
    exact ⟨within_reading hi, hcut.symm.trans hs⟩
  · have hlength := length_turnsFrom hstart
    rwa [Nat.zero_add] at hlength

/-- The turn at a placeholder that is never closed, behind an escape and a closed placeholder. -/
theorem turns_in_pattern_of_unclosed :
    let chars := "%%%c\x7bx\x7d%d\x7b%H".toList.toArray
    ∃ turn ∈ turns chars, turn.start = 7 ∧ turn.next = 12 ∧
      ∃ reading ∈ turn.reading?, reading.noted.phase = .sub ∧ reading.Within 8 12 := by
  intro chars
  have hturn : ∃ turn ∈ turns chars, turn.start = 7 ∧ turn.next = 12 ∧
      turn.reading?.any (fun reading => reading.noted.phase = .sub) = true := by
    decide +kernel
  obtain ⟨turn, hmem, hfirst, hnext, hany⟩ := hturn
  obtain ⟨reading, hreading, hphase⟩ := (Option.any_eq_true ..).1 hany
  obtain ⟨-, -, -, hwithin⟩ :=
    (turns_in_pattern Date.accepts "%%%c\x7bx\x7d%d\x7b%H").1 turn hmem
  have hread := (hwithin reading hreading).1
  rw [hfirst] at hread
  exact ⟨turn, hmem, hfirst, hnext, reading, hreading, by simpa using hphase, hread⟩

end EventLog.Layout
