import EventLog.Layout.Item

/-!
# Compiling in one pass

A pattern is compiled in one pass over its characters. At a percent sign that is not doubled, a
`Probe` runs ahead to the end of the placeholder. It only notes places in the pattern; the key and
the sub-format are cut out by these places afterwards, and a cut that does not lie in the pattern
gives nothing. Text between placeholders is collected in a `Draft` until the next placeholder or the
end of the pattern makes a literal of it.

`Probe.Placed` says where the noted places lie while the probe runs. From it follows that every cut
lies in the pattern (`exists_segmentAt?`), and so `scan` is total.
-/

namespace EventLog.Layout

/-- The characters from one place up to another, if these are places of the pattern in this order. -/
def slice? (chars : Array Char) (start stop : Nat) : Option (List Char) :=
  if start ≤ stop ∧ stop ≤ chars.size then some ((chars.toList.drop start).take (stop - start))
  else none

theorem slice?_eq (chars : Array Char) {start stop : Nat} (h : start ≤ stop)
    (hs : stop ≤ chars.size) :
    slice? chars start stop = some ((chars.toList.drop start).take (stop - start)) :=
  if_pos ⟨h, hs⟩

/-! ## Running to the end of a placeholder -/

/-- How far a placeholder has been read. -/
inductive Phase where
  /-- In the key. -/
  | key
  /-- Behind the opening brace. -/
  | sub
  /-- The closing brace has been met. -/
  | closed
  deriving DecidableEq

/-- What has been noted about a placeholder: where the key ends, and where the sub-format starts and
ends. Each is meaningful only in the phases that come after it. -/
structure Probe where
  phase : Phase
  keyEnd : Nat
  subStart : Nat
  subEnd : Nat

namespace Probe

/-- What is noted before a placeholder of a pattern is read. -/
def start (chars : Array Char) : Probe := ⟨.key, chars.size, 0, 0⟩

/-- Reads the character at place `n`, and goes on or stops there. -/
def read (n : Nat) (c : Char) (p : Probe) : ForInStep Probe :=
  match p.phase with
  | .key =>
    if c = '\x7b' then .yield { p with phase := .sub, keyEnd := n, subStart := n + 1 }
    else if isKeyChar c then .yield p
    else .done { p with keyEnd := n }
  | .sub => if c = '\x7d' then .done { p with phase := .closed, subEnd := n } else .yield p
  | .closed => .done p

/-- Reads on from place `n`: where reading stops, and what has been noted. -/
def run (chars : Array Char) (n : Nat) (p : Probe) : Nat × Probe :=
  if h : n < chars.size then
    match p.read n chars[n] with
    | .yield q => q.run chars (n + 1)
    | .done q => (n, q)
  else (n, p)
termination_by chars.size - n

/-- Where the noted places lie when reading has come to `n` and the key starts at `first`. -/
structure Placed (first n size : Nat) (p : Probe) : Prop where
  first_le : first ≤ n
  le_size : n ≤ size
  in_key : p.phase = .key → n ≤ p.keyEnd
  past_key : p.phase ≠ .key → first ≤ p.keyEnd ∧ p.keyEnd < p.subStart ∧ p.subStart ≤ n
  past_sub : p.phase = .closed → p.subEnd = n ∧ n < size

/-- The same while reading goes on: the end of the key is noted only when the key is over, and
nothing is read behind the closing brace. -/
structure Running (first n size : Nat) (p : Probe) : Prop extends Placed first n size p where
  keyEnd_eq : p.phase = .key → p.keyEnd = size
  not_closed : p.phase ≠ .closed

theorem running_start {chars : Array Char} {n : Nat} (h : n ≤ chars.size) :
    Running n n chars.size (start chars) where
  first_le := Nat.le_refl n
  le_size := h
  in_key _ := h
  past_key hp := absurd rfl hp
  past_sub hp := by cases hp
  keyEnd_eq _ := rfl
  not_closed hp := by cases hp

/-- Reading one character keeps the places in order, whether reading goes on or stops. -/
theorem Running.read {first n size : Nat} {p : Probe} (h : Running first n size p) (hn : n < size)
    (c : Char) :
    match p.read n c with
    | .yield q => Running first (n + 1) size q
    | .done q => Placed first n size q := by
  have hfirst := h.first_le
  cases hp : p.phase with
  | key =>
    have hend := h.keyEnd_eq hp
    by_cases hb : c = '\x7b'
    · simp only [Probe.read, hp, hb, if_true]
      refine ⟨⟨by omega, hn, by simp, fun _ => ?_, by simp⟩, by simp, by simp⟩
      exact ⟨hfirst, Nat.lt_succ_self n, Nat.le_refl _⟩
    · by_cases hk : isKeyChar c
      · simp only [Probe.read, hp, hb, hk, if_true, if_false]
        exact ⟨⟨by omega, hn, fun _ => by omega, fun h => absurd hp h, by simp [hp]⟩,
          fun _ => hend, h.not_closed⟩
      · simp only [Probe.read, hp, hb, hk, if_false]
        exact ⟨hfirst, h.le_size, fun _ => Nat.le_refl n, fun h => absurd rfl h, by simp⟩
  | sub =>
    have hplaces := h.past_key (by simp [hp])
    by_cases hb : c = '\x7d'
    · simp only [Probe.read, hp, hb, if_true]
      exact ⟨hfirst, h.le_size, by simp, fun _ => hplaces, fun _ => ⟨rfl, hn⟩⟩
    · simp only [Probe.read, hp, hb, if_false]
      exact ⟨⟨by omega, hn, by simp [hp], fun _ => by omega, by simp [hp]⟩, by simp [hp],
        h.not_closed⟩
  | closed => exact absurd hp h.not_closed

/-- However a placeholder ends, the places that have been noted lie in order. -/
theorem Running.run {chars : Array Char} {first n : Nat} {p : Probe}
    (h : Running first n chars.size p) :
    Placed first (p.run chars n).1 chars.size (p.run chars n).2 := by
  fun_induction Probe.run chars n p with
  | case1 n p hn q hq ih =>
    have := h.read hn chars[n]
    rw [hq] at this
    exact ih this
  | case2 n p hn q hq =>
    have := h.read hn chars[n]
    rwa [hq] at this
  | case3 => exact h.toPlaced

end Probe

/-! ## Segments by place -/

/-- The placeholder whose key starts at `first`, cut out by the places noted when reading stopped at
`n`, and the place after it. -/
def cut? (chars : Array Char) (first n : Nat) (p : Probe) : Option (Segment × Nat) := do
  let key ← slice? chars first (min p.keyEnd n)
  match p.phase with
  | .key => return (.bare key, n)
  | .sub => return (.dangling key (← slice? chars p.subStart chars.size), chars.size)
  | .closed => return (.braced key (← slice? chars p.subStart p.subEnd), n + 1)

/-- The segment at a place of a pattern, and the place after it. -/
def segmentAt? (chars : Array Char) (i : Nat) (h : i < chars.size) : Option (Segment × Nat) :=
  if chars[i] ≠ '%' then some (.text chars[i], i + 1)
  else if chars[i + 1]? = some '%' then some (.escape, i + 2)
  else
    let (n, p) := (Probe.start chars).run chars (i + 1)
    cut? chars (i + 1) n p

namespace Probe.Placed

variable {chars : Array Char} {first n size : Nat} {p : Probe}

/-- The key lies in the pattern. -/
theorem key_le (h : p.Placed first n size) :
    first ≤ min p.keyEnd n ∧ min p.keyEnd n ≤ size := by
  have hfirst := h.first_le
  have hn := h.le_size
  have hkey : first ≤ p.keyEnd := by
    by_cases hp : p.phase = .key
    · exact Nat.le_trans hfirst (h.in_key hp)
    · exact (h.past_key hp).1
  omega

/-- A sub-format that was never closed starts in the pattern. -/
theorem subStart_le (h : p.Placed first n size) (hp : p.phase = .sub) : p.subStart ≤ size := by
  have hsub := (h.past_key (by simp [hp])).2.2
  exact Nat.le_trans hsub h.le_size

/-- A closed sub-format lies in the pattern. -/
theorem sub_le (h : p.Placed first n size) (hp : p.phase = .closed) :
    p.subStart ≤ p.subEnd ∧ p.subEnd ≤ size := by
  have hsub := (h.past_key (by simp [hp])).2.2
  obtain ⟨hend, hlt⟩ := h.past_sub hp
  omega

/-- The cuts for a placeholder lie in the pattern, and reading goes on behind its start. -/
theorem exists_cut? (h : p.Placed first n chars.size) :
    ∃ s j, cut? chars first n p = some (s, j) ∧ first ≤ j ∧ j ≤ chars.size := by
  have hfirst := h.first_le
  have hn := h.le_size
  obtain ⟨hkey, hend⟩ := h.key_le
  cases hp : p.phase with
  | key =>
    simp only [cut?, hp, slice?_eq chars hkey hend]
    exact ⟨_, n, rfl, hfirst, hn⟩
  | sub =>
    simp only [cut?, hp, slice?_eq chars hkey hend,
      slice?_eq chars (h.subStart_le hp) (Nat.le_refl _)]
    exact ⟨_, chars.size, rfl, Nat.le_trans hfirst hn, Nat.le_refl _⟩
  | closed =>
    obtain ⟨hsub, hlast⟩ := h.sub_le hp
    simp only [cut?, hp, slice?_eq chars hkey hend, slice?_eq chars hsub hlast]
    exact ⟨_, n + 1, rfl, by omega, (h.past_sub hp).2⟩

end Probe.Placed

/-- At every place of a pattern there is a segment, and reading goes on behind that place, at the end
of the pattern at the latest. -/
theorem exists_segmentAt? {chars : Array Char} {i : Nat} (h : i < chars.size) :
    ∃ s j, segmentAt? chars i h = some (s, j) ∧ i < j ∧ j ≤ chars.size := by
  unfold segmentAt?
  split
  · exact ⟨_, _, rfl, Nat.lt_succ_self i, h⟩
  · split
    · next hnext =>
      have hlt : i + 1 < chars.size := (Array.getElem?_eq_some_iff.1 hnext).1
      exact ⟨_, _, rfl, by omega, hlt⟩
    · exact (Probe.running_start h).run.exists_cut?

theorem le_of_segmentAt? {chars : Array Char} {i j : Nat} {h : i < chars.size} {s : Segment}
    (hs : segmentAt? chars i h = some (s, j)) : i < j ∧ j ≤ chars.size := by
  obtain ⟨t, k, ht, hk⟩ := exists_segmentAt? h
  rw [hs] at ht
  cases ht
  exact hk

theorem segmentAt?_ne_none {chars : Array Char} {i : Nat} (h : i < chars.size) :
    segmentAt? chars i h ≠ none := by
  obtain ⟨s, j, hs, -⟩ := exists_segmentAt? h
  rw [hs]
  exact Option.some_ne_none _

/-! ## The pass -/

/-- What has been made of the pattern so far: the items, the text that waits to become a literal,
and whether some placeholder could not be honoured. -/
structure Draft where
  items : Array Item := #[]
  literal : String := ""
  hasError : Bool := false

namespace Draft

/-- Makes a literal of the text that waits. -/
def flush (d : Draft) : Draft :=
  if d.literal = "" then d else { d with items := d.items.push (.literal d.literal), literal := "" }

/-- Takes in the next segment: text waits, a placeholder becomes an item. -/
def add (accepts : String → Bool) (d : Draft) (s : Segment) : Draft :=
  match s.char? with
  | some c => { d with literal := d.literal.push c }
  | none =>
    { d.flush with
      items := d.flush.items.push (s.item accepts)
      hasError := d.hasError || s.isFaulty accepts }

end Draft

/-- Takes in the segments from a place on, and ends with the text that waits. -/
def scanFrom (accepts : String → Bool) (chars : Array Char) (i : Nat) (d : Draft) : Option Draft :=
  if h : i < chars.size then
    match _hs : segmentAt? chars i h with
    | some (s, j) => scanFrom accepts chars j (d.add accepts s)
    | none => none
  else some d.flush
termination_by chars.size - i
decreasing_by have := le_of_segmentAt? _hs; omega

theorem isSome_scanFrom (accepts : String → Bool) (chars : Array Char) (i : Nat) (d : Draft) :
    (scanFrom accepts chars i d).isSome := by
  fun_induction scanFrom accepts chars i d with
  | case1 i d h s j hs ih => exact ih
  | case2 i d h hs => exact absurd hs (segmentAt?_ne_none h)
  | case3 => rfl

/-- Compiles the characters of a pattern. -/
def scan (accepts : String → Bool) (chars : Array Char) : Draft :=
  (scanFrom accepts chars 0 {}).get (isSome_scanFrom accepts chars 0 {})

end EventLog.Layout
