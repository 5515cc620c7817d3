import EventLog.Layout.Scan
import EventLog.Proofs.Layout.Segmentation

/-!
# The pass over a pattern reads its segments

The pass works on places in an array of characters, the grammar on lists. What is left of the
pattern at a place is `chars.toList.drop n`, and the statements here follow it: `run_key` and
`run_sub` say where a probe stops in terms of the longest run of key or sub-format characters,
`cut?_run` that the places it notes cut out the placeholder that the grammar wants, and
`scanFrom_eq` that the whole pass takes in the segments of what is left, in order.
-/

namespace EventLog.Layout

variable {chars : Array Char}

/-! ## What is left at a place -/

theorem drop_eq_cons {n : Nat} {c : Char} {rest : List Char}
    (h : chars.toList.drop n = c :: rest) :
    ∃ hn : n < chars.size, chars[n] = c ∧ chars.toList.drop (n + 1) = rest := by
  have hn : n < chars.toList.length := by
    by_contra hge
    rw [List.drop_eq_nil_of_le (by omega)] at h
    cases h
  rw [List.drop_eq_getElem_cons hn] at h
  obtain ⟨hc, hrest⟩ := List.cons.inj h
  exact ⟨by simpa using hn, by simpa using hc, hrest⟩

theorem size_le_of_drop_eq_nil {n : Nat} (h : chars.toList.drop n = []) : chars.size ≤ n := by
  simpa using List.drop_eq_nil_iff.1 h

/-- A cut as long as a first part of what is left gives this part, and leaves the rest. -/
theorem slice?_of_drop_eq_append {n : Nat} {part rest : List Char}
    (h : chars.toList.drop n = part ++ rest) (hn : n ≤ chars.size) :
    slice? chars n (n + part.length) = some part ∧
      chars.toList.drop (n + part.length) = rest ∧ n + part.length ≤ chars.size := by
  have hlen : n + part.length ≤ chars.size := by
    have := congrArg List.length h
    rw [List.length_drop, List.length_append, Array.length_toList] at this
    omega
  refine ⟨?_, ?_, hlen⟩
  · rw [slice?_eq chars (Nat.le_add_right n _) hlen, h, Nat.add_sub_cancel_left, List.take_left]
  · rw [← List.drop_drop, h, List.drop_left]

/-! ## Where a probe stops -/

namespace Probe

variable {p q : Probe} {n : Nat}

theorem run_of_yield {hn : n < chars.size} (h : p.read n chars[n] = .yield q) :
    p.run chars n = q.run chars (n + 1) := by
  rw [run, dif_pos hn, h]

theorem run_of_done {hn : n < chars.size} (h : p.read n chars[n] = .done q) :
    p.run chars n = (n, q) := by
  rw [run, dif_pos hn, h]

theorem run_of_size_le (h : chars.size ≤ n) : p.run chars n = (n, p) := by
  rw [run, dif_neg (by omega)]

/-- In a sub-format a probe runs to the first closing brace, or to the end. -/
theorem run_sub {rest : List Char} (hp : p.phase = .sub) (h : chars.toList.drop n = rest) :
    p.run chars n =
      (n + (rest.takeWhile isSubChar).length,
        if rest.dropWhile isSubChar = [] then p
        else { p with phase := .closed, subEnd := n + (rest.takeWhile isSubChar).length }) := by
  induction rest generalizing n with
  | nil => exact run_of_size_le (size_le_of_drop_eq_nil h)
  | cons c rest ih =>
    obtain ⟨hn, rfl, hrest⟩ := drop_eq_cons h
    by_cases hb : chars[n] = '\x7d'
    · have hs : ¬ isSubChar chars[n] := by simpa [isSubChar] using hb
      have hread : p.read n chars[n] = .done { p with phase := .closed, subEnd := n } := by
        simp only [read, hp, if_pos hb]
      rw [run_of_done hread, List.takeWhile_cons_of_neg hs, List.dropWhile_cons_of_neg hs,
        if_neg (List.cons_ne_nil _ _)]
      rfl
    · have hs : isSubChar chars[n] := by simpa [isSubChar] using hb
      have hread : p.read n chars[n] = .yield p := by simp only [read, hp, if_neg hb]
      rw [run_of_yield hread, ih hrest, List.takeWhile_cons_of_pos hs,
        List.dropWhile_cons_of_pos hs, List.length_cons, Nat.add_right_comm, Nat.add_assoc]

/-- In a key a probe runs to the first character that is none of a key, and on into the sub-format
if this is an opening brace. -/
theorem run_key {rest : List Char} (hp : p.phase = .key) (h : chars.toList.drop n = rest) :
    p.run chars n =
      let stop := n + (rest.takeWhile isKeyChar).length
      match rest.dropWhile isKeyChar with
      | [] => (stop, p)
      | c :: _ =>
        if c = '\x7b' then
          run chars (stop + 1) { p with phase := .sub, keyEnd := stop, subStart := stop + 1 }
        else (stop, { p with keyEnd := stop }) := by
  induction rest generalizing n with
  | nil => exact run_of_size_le (size_le_of_drop_eq_nil h)
  | cons c rest ih =>
    obtain ⟨hn, rfl, hrest⟩ := drop_eq_cons h
    by_cases hk : isKeyChar chars[n]
    · have hb : chars[n] ≠ '\x7b' := fun hb => Segment.not_isKeyChar_brace (hb ▸ hk)
      have hread : p.read n chars[n] = .yield p := by
        simp only [read, hp, if_neg hb, if_pos hk]
      have hstop : n + 1 + (rest.takeWhile isKeyChar).length
          = n + ((rest.takeWhile isKeyChar).length + 1) := by omega
      rw [run_of_yield hread, ih hrest, List.takeWhile_cons_of_pos hk,
        List.dropWhile_cons_of_pos hk, List.length_cons, hstop]
    · rw [List.takeWhile_cons_of_neg hk, List.dropWhile_cons_of_neg hk]
      by_cases hb : chars[n] = '\x7b'
      · have hread : p.read n chars[n]
            = .yield { p with phase := .sub, keyEnd := n, subStart := n + 1 } := by
          simp only [read, hp, if_pos hb]
        rw [run_of_yield hread]
        simp only [if_pos hb, List.length_nil, Nat.add_zero]
      · have hread : p.read n chars[n] = .done { p with keyEnd := n } := by
          simp only [read, hp, if_neg hb, if_neg hk]
        rw [run_of_done hread]
        simp only [if_neg hb, List.length_nil, Nat.add_zero]

end Probe

/-! ## The segment at a place -/

/-- A cut of the key, by the places noted when reading stopped at `n`. -/
theorem cut?_eq {first n : Nat} {p : Probe} {key : List Char}
    (hkey : slice? chars first (min p.keyEnd n) = some key) :
    cut? chars first n p =
      match p.phase with
      | .key => some (.bare key, n)
      | .sub => (slice? chars p.subStart chars.size).map fun sub => (.dangling key sub, chars.size)
      | .closed => (slice? chars p.subStart p.subEnd).map fun sub => (.braced key sub, n + 1) := by
  rw [cut?, hkey]
  cases p.phase with
  | key => rfl
  | sub => exact (Option.map_eq_bind ..).symm
  | closed => exact (Option.map_eq_bind ..).symm

/-- The places that a probe notes cut out the placeholder that the grammar wants. -/
theorem cut?_run {first : Nat} (h : first ≤ chars.size) :
    let (n, p) := (Probe.start chars).run chars first
    ∃ j, cut? chars first n p = some ((Segment.placeholder (chars.toList.drop first)).1, j) ∧
      chars.toList.drop j = (Segment.placeholder (chars.toList.drop first)).2 := by
  have hkey := List.takeWhile_append_dropWhile (p := isKeyChar) (l := chars.toList.drop first)
  obtain ⟨hcut, hdrop, hle⟩ := slice?_of_drop_eq_append hkey.symm h
  rw [Probe.run_key rfl rfl, Segment.placeholder]
  -- How the key was found does not matter any more, only that the pattern goes on with it.
  generalize (chars.toList.drop first).takeWhile isKeyChar = key at hcut hdrop hle ⊢
  generalize (chars.toList.drop first).dropWhile isKeyChar = left at hdrop ⊢
  cases left with
  | nil =>
    -- The end of the key was never noted, so the cut falls back on where the pattern ends.
    have hmin : min (Probe.start chars).keyEnd (first + key.length) = first + key.length :=
      Nat.min_eq_right hle
    refine ⟨first + key.length, ?_, hdrop⟩
    rw [cut?_eq (by rw [hmin]; exact hcut)]
    rfl
  | cons c more =>
    by_cases hc : c = '\x7b'
    · subst hc
      obtain ⟨hlt, -, hmore⟩ := drop_eq_cons hdrop
      have hsub := List.takeWhile_append_dropWhile (p := isSubChar) (l := more)
      obtain ⟨hcut', hdrop', hle'⟩ :=
        slice?_of_drop_eq_append (hmore.trans hsub.symm) (Nat.succ_le_of_lt hlt)
      simp only [if_true]
      rw [Probe.run_sub rfl hmore]
      generalize more.takeWhile isSubChar = sub at hcut' hdrop' hle' ⊢
      generalize more.dropWhile isSubChar = after at hdrop' ⊢
      have hmin : min (first + key.length) (first + key.length + 1 + sub.length)
          = first + key.length := by omega
      cases after with
      | nil =>
        have hsize : first + key.length + 1 + sub.length = chars.size :=
          Nat.le_antisymm hle' (size_le_of_drop_eq_nil hdrop')
        refine ⟨chars.size, ?_, by rw [← hsize]; exact hdrop'⟩
        rw [cut?_eq (by simpa only [if_true, hmin] using hcut)]
        rw [hsize] at hcut'
        simp only [if_true, hcut', Option.map_some]
      | cons d after =>
        obtain ⟨-, -, hafter⟩ := drop_eq_cons hdrop'
        refine ⟨first + key.length + 1 + sub.length + 1, ?_, hafter⟩
        rw [if_neg (List.cons_ne_nil _ _), cut?_eq (by simpa only [hmin] using hcut)]
        simp only [hcut', Option.map_some]
    · simp only [if_neg hc]
      refine ⟨first + key.length, ?_, hdrop⟩
      rw [cut?_eq (by simpa only [Nat.min_self] using hcut)]
      rfl

/-- At each place stands the first segment of what is left, and behind it what comes after. -/
theorem segmentAt?_eq {i : Nat} (h : i < chars.size) :
    ∃ j, segmentAt? chars i h
        = some ((Segment.first chars[i] (chars.toList.drop (i + 1))).1, j) ∧
      chars.toList.drop j = (Segment.first chars[i] (chars.toList.drop (i + 1))).2 := by
  have hnext : chars[i + 1]? = (chars.toList.drop (i + 1)).head? := by
    rw [List.head?_drop, Array.getElem?_toList]
  unfold segmentAt? Segment.first
  by_cases hc : chars[i] ≠ '%'
  · rw [if_pos hc, if_pos hc]
    exact ⟨i + 1, rfl, rfl⟩
  · rw [if_neg hc, if_neg hc, hnext]
    by_cases hp : (chars.toList.drop (i + 1)).head? = some '%'
    · rw [if_pos hp, if_pos hp]
      exact ⟨i + 2, rfl, List.tail_drop.symm⟩
    · rw [if_neg hp, if_neg hp]
      exact cut?_run h

/-! ## The whole pass -/

variable (accepts : String → Bool)

/-- From any place on, the pass takes in the segments of what is left. -/
theorem scanFrom_eq (chars : Array Char) (i : Nat) (d : Draft) :
    scanFrom accepts chars i d
      = some ((segments (chars.toList.drop i)).foldl (Draft.add accepts) d).flush := by
  fun_induction scanFrom accepts chars i d with
  | case1 i d hi s j hs ih =>
    obtain ⟨k, hk, hdrop⟩ := segmentAt?_eq hi
    rw [hs] at hk
    cases hk
    have hi' : i < chars.toList.length := by simpa using hi
    rw [ih, List.drop_eq_getElem_cons hi', segments, List.foldl_cons, hdrop, Array.getElem_toList]
  | case2 i d hi hs =>
    obtain ⟨k, hk, -⟩ := segmentAt?_eq hi
    rw [hs] at hk
    cases hk
  | case3 i d hi =>
    have hi' : chars.toList.length ≤ i := by simpa using hi
    rw [List.drop_eq_nil_of_le hi', segments, List.foldl_nil]

/-- The pass takes in the segments of the pattern, and ends with the text that waits. -/
theorem scan_eq (chars : Array Char) :
    scan accepts chars = ((segments chars.toList).foldl (Draft.add accepts) {}).flush := by
  have h := scanFrom_eq accepts chars 0 {}
  rw [List.drop_zero] at h
  simp only [scan, h, Option.get_some]

end EventLog.Layout
