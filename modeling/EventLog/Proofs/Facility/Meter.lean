import Mathlib.Data.List.DropRight
import EventLog.Error
import EventLog.Metrics

/-!
# Counting events and telling failures

A `Meter` is an appender as far as its counters go: which of its calls are events that pass the gate,
which of these fail, which calls reset the counters, and what is told on the error stream. Of each
call it says what becomes of the counters.

From that follows what holds of whole runs (`accounts_run`). Since the counters were last reset they
have counted every event that passed, and the failures apart. Of each stretch between two resets one
failure is told if there was any, and nothing is told otherwise. This needs the counters not to wrap:
a stretch that fails 2 ^ 64 times would tell of a failure once more.
-/

namespace EventLog

/-- An appender as far as its counters go. `σ` is its state together with what it writes to, and `κ`
are the calls. -/
structure Meter (σ κ : Type) where
  perform : σ → κ → σ
  metrics : σ → Metrics
  /-- What a call tells on the error stream. -/
  told : σ × κ → Option Diagnostic
  /-- The text of the event, if a call is one to log an event that passes the gate. -/
  text? : σ × κ → Option String
  /-- Whether a text cannot be written. -/
  refuses : String → σ → Bool
  /-- Whether a call resets the counters. -/
  resets : σ × κ → Bool
  text?_of_resets : ∀ entry, resets entry = true → text? entry = none
  metrics_perform : ∀ entry, metrics (perform entry.1 entry.2) =
    match text? entry with
    | some text =>
      if refuses text entry.1 then (metrics entry.1).recordFailed.2
      else (metrics entry.1).recordWritten
    | none => if resets entry then {} else metrics entry.1
  isSome_told : ∀ entry, (told entry).isSome =
    ((text? entry).any (refuses · entry.1) && (metrics entry.1).failed == 0)

namespace Meter

variable {σ κ : Type} (m : Meter σ κ)

/-- Whether a call is one to log an event that passes the gate. -/
def passes (entry : σ × κ) : Bool := (m.text? entry).isSome

/-- Whether a call is one to log an event that passes the gate and cannot be written. -/
def fails (entry : σ × κ) : Bool := (m.text? entry).any (m.refuses · entry.1)

theorem passes_of_fails {entry : σ × κ} (h : m.fails entry = true) : m.passes entry = true := by
  obtain ⟨text, htext, -⟩ := (Option.any_eq_true _ _).1 h
  rw [passes, htext, Option.isSome_some]

theorem fails_of_not_passes {entry : σ × κ} (h : m.passes entry = false) :
    m.fails entry = false := by
  rw [fails, Option.not_isSome_iff_eq_none.1 (ne_true_of_eq_false h), Option.any_none]

theorem passes_of_resets {entry : σ × κ} (h : m.resets entry = true) : m.passes entry = false := by
  rw [passes, m.text?_of_resets entry h, Option.isSome_none]

/-- A call to log an event that passes the gate adds one to one counter: to that of failures if the
event cannot be written, and else to the other. No other call changes the counters without resetting
them. -/
structure Counts (entry : σ × κ) : Prop where
  failed : m.fails entry = true → m.metrics (m.perform entry.1 entry.2) =
    { m.metrics entry.1 with failed := (m.metrics entry.1).failed + 1 }
  written : m.passes entry = true → m.fails entry = false →
    m.metrics (m.perform entry.1 entry.2) =
      { m.metrics entry.1 with written := (m.metrics entry.1).written + 1 }
  reset : m.resets entry = true → m.metrics (m.perform entry.1 entry.2) = {}
  kept : m.passes entry = false → m.resets entry = false →
    m.metrics (m.perform entry.1 entry.2) = m.metrics entry.1

theorem counts (entry : σ × κ) : m.Counts entry := by
  have hperform := m.metrics_perform entry
  cases htext : m.text? entry with
  | none =>
    rw [htext] at hperform
    have hpasses : m.passes entry = false := by rw [passes, htext, Option.isSome_none]
    have hfails := m.fails_of_not_passes hpasses
    refine ⟨fun h => ?_, fun h => ?_, fun h => ?_, fun _ h => ?_⟩
    · rw [hfails] at h
      cases h
    · rw [hpasses] at h
      cases h
    · rw [hperform, h]
      rfl
    · rw [hperform, h]
      rfl
  | some text =>
    rw [htext] at hperform
    dsimp only at hperform
    have hpasses : m.passes entry = true := by rw [passes, htext, Option.isSome_some]
    have hfails : m.fails entry = m.refuses text entry.1 := by rw [fails, htext, Option.any_some]
    refine ⟨fun h => ?_, fun _ h => ?_, fun h => ?_, fun h => ?_⟩
    · rw [hperform, ← hfails, h]
      rfl
    · rw [hperform, ← hfails, h]
      rfl
    · rw [m.passes_of_resets h] at hpasses
      cases hpasses
    · rw [hpasses] at h
      cases h

/-! ## Runs -/

/-- What calls in order leave. -/
def run (s : σ) (calls : List κ) : σ := calls.foldl m.perform s

/-- The calls of a run, each with the state that it meets. -/
def history (s : σ) : List κ → List (σ × κ)
  | [] => []
  | call :: rest => (s, call) :: history (m.perform s call) rest

/-- The last calls of a history, since the counters were last reset. -/
def sinceReset (entries : List (σ × κ)) : List (σ × κ) :=
  entries.rtakeWhile fun entry => !m.resets entry

/-- The calls of a history between those that reset the counters. -/
def stretches (entries : List (σ × κ)) : List (List (σ × κ)) := entries.splitOnP m.resets

/-- What the calls of a history tell on the error stream. -/
def diagnostics (entries : List (σ × κ)) : List Diagnostic := entries.filterMap m.told

/-- What the states of a run keep, each call meets. -/
theorem forall_history {P : σ → Prop} (h : ∀ s call, P s → P (m.perform s call)) {s : σ} (hs : P s)
    (calls : List κ) : ∀ entry ∈ m.history s calls, P entry.1 := by
  induction calls generalizing s with
  | nil => exact List.forall_mem_nil _
  | cons call rest ih => exact List.forall_mem_cons.2 ⟨hs, ih (h s call hs)⟩

theorem run_concat (s : σ) (calls : List κ) (call : κ) :
    m.run s (calls ++ [call]) = m.perform (m.run s calls) call := by
  rw [run, List.foldl_append]
  rfl

theorem history_concat (s : σ) (calls : List κ) (call : κ) :
    m.history s (calls ++ [call]) = m.history s calls ++ [(m.run s calls, call)] := by
  induction calls generalizing s with
  | nil => rfl
  | cons first rest ih =>
    rw [List.cons_append, history, ih (m.perform s first)]
    rfl

/-! ## Stretches of a history -/

theorem sinceReset_concat (entries : List (σ × κ)) (entry : σ × κ) :
    m.sinceReset (entries ++ [entry]) =
      if m.resets entry then [] else m.sinceReset entries ++ [entry] := by
  rw [sinceReset, List.rtakeWhile_concat]
  cases m.resets entry <;> rfl

/-- The calls since the last reset are the last stretch, which grows by calls that reset nothing. -/
theorem exists_stretches_append (entries : List (σ × κ)) :
    ∃ earlier, ∀ tail, (∀ entry ∈ tail, m.resets entry = false) →
      m.stretches (entries ++ tail) = earlier ++ [m.sinceReset entries ++ tail] := by
  induction entries using List.reverseRecOn with
  | nil => exact ⟨[], fun tail htail => List.splitOnP_eq_singleton htail⟩
  | append_singleton before entry ih =>
    cases hreset : m.resets entry with
    | true =>
      refine ⟨m.stretches before, fun tail htail => ?_⟩
      rw [sinceReset_concat, hreset, if_pos rfl, List.append_assoc]
      show (before ++ entry :: tail).splitOnP m.resets = _
      rw [List.splitOnP_append_cons before tail hreset, List.splitOnP_eq_singleton htail]
      rfl
    | false =>
      obtain ⟨earlier, h⟩ := ih
      refine ⟨earlier, fun tail htail => ?_⟩
      rw [sinceReset_concat, hreset, if_neg Bool.false_ne_true, List.append_assoc,
        List.append_assoc]
      exact h ([entry] ++ tail) (List.forall_mem_cons.2 ⟨hreset, htail⟩)

/-- One more call opens a new stretch if it resets the counters, and else belongs to the last one. -/
theorem exists_stretches_concat (entries : List (σ × κ)) :
    ∃ earlier, m.stretches entries = earlier ++ [m.sinceReset entries] ∧
      ∀ entry, m.stretches (entries ++ [entry]) =
        if m.resets entry then earlier ++ [m.sinceReset entries] ++ [[]]
        else earlier ++ [m.sinceReset entries ++ [entry]] := by
  obtain ⟨earlier, h⟩ := m.exists_stretches_append entries
  have hold : m.stretches entries = earlier ++ [m.sinceReset entries] := by
    have hnil := h [] (List.forall_mem_nil _)
    rwa [List.append_nil, List.append_nil] at hnil
  refine ⟨earlier, hold, fun entry => ?_⟩
  cases hreset : m.resets entry with
  | true =>
    rw [if_pos rfl, ← hold]
    exact List.splitOnP_append_cons entries [] hreset
  | false => exact h [entry] (List.forall_mem_singleton.2 hreset)

/-- No stretch of a history has so many events that a counter wraps. -/
def Bounded (entries : List (σ × κ)) : Prop :=
  ∀ stretch ∈ m.stretches entries, stretch.countP m.passes < UInt64.size

variable {m}

theorem Bounded.sinceReset {entries : List (σ × κ)} (h : m.Bounded entries) :
    (m.sinceReset entries).countP m.passes < UInt64.size := by
  obtain ⟨earlier, hold, -⟩ := m.exists_stretches_concat entries
  refine h _ ?_
  rw [hold]
  exact List.mem_append_right _ (List.mem_singleton_self _)

/-- A history is bounded if it is after one more call. -/
theorem Bounded.of_concat {entries : List (σ × κ)} {entry : σ × κ}
    (h : m.Bounded (entries ++ [entry])) : m.Bounded entries := by
  obtain ⟨earlier, hold, hnew⟩ := m.exists_stretches_concat entries
  intro stretch hstretch
  rw [hold] at hstretch
  unfold Bounded at h
  rw [hnew] at h
  cases hreset : m.resets entry with
  | true =>
    rw [hreset, if_pos rfl] at h
    exact h stretch (List.mem_append_left _ hstretch)
  | false =>
    rw [hreset, if_neg Bool.false_ne_true] at h
    rcases List.mem_append.1 hstretch with hearlier | hlast
    · exact h stretch (List.mem_append_left _ hearlier)
    · -- The last stretch was shorter by the new call.
      rw [List.mem_singleton.1 hlast]
      have hlonger := h _ (List.mem_append_right _ (List.mem_singleton_self _))
      rw [List.countP_append] at hlonger
      omega

/-! ## What the counters say -/

variable (m)

theorem countP_passes (entries : List (σ × κ)) :
    entries.countP m.passes =
      entries.countP (fun entry => m.passes entry && !m.fails entry) + entries.countP m.fails := by
  induction entries with
  | nil => rfl
  | cons entry rest ih =>
    rw [List.countP_cons, List.countP_cons, List.countP_cons, ih]
    cases hfails : m.fails entry with
    | true =>
      rw [m.passes_of_fails hfails]
      simp only [Bool.not_true, Bool.and_false, Bool.false_eq_true, if_true, if_false]
      omega
    | false =>
      simp only [Bool.not_false, Bool.and_true, Bool.false_eq_true, if_false]
      omega

/-- The counters and the error stream agree with a history: the events that passed since the last
reset are counted, as written or as failed, and one failure is told of each stretch with failures. -/
structure Accounts (metrics : Metrics) (entries : List (σ × κ)) : Prop where
  written : metrics.written.toNat =
    (m.sinceReset entries).countP fun entry => m.passes entry && !m.fails entry
  failed : metrics.failed.toNat = (m.sinceReset entries).countP m.fails
  told : (m.diagnostics entries).length = (m.stretches entries).countP (·.any m.fails)

variable {m}

theorem Accounts.sum {metrics : Metrics} {entries : List (σ × κ)} (h : m.Accounts metrics entries) :
    metrics.written.toNat + metrics.failed.toNat = (m.sinceReset entries).countP m.passes := by
  rw [countP_passes, h.written, h.failed]

/-- The failure counter is zero exactly if no event has failed since the last reset. -/
theorem Accounts.failed_eq_zero {metrics : Metrics} {entries : List (σ × κ)}
    (h : m.Accounts metrics entries) :
    (metrics.failed == 0) = !(m.sinceReset entries).any m.fails := by
  have hzero : metrics.failed = 0 ↔ (m.sinceReset entries).countP m.fails = 0 := by
    rw [← h.failed, ← UInt64.toNat_inj, UInt64.toNat_zero]
  rw [Bool.eq_iff_iff, beq_iff_eq, hzero, List.countP_eq_zero, Bool.not_eq_true',
    List.any_eq_false]

theorem length_diagnostics_concat (entries : List (σ × κ)) (entry : σ × κ) :
    (m.diagnostics (entries ++ [entry])).length =
      (m.diagnostics entries).length +
        if m.fails entry && (m.metrics entry.1).failed == 0 then 1 else 0 := by
  rw [diagnostics, List.filterMap_append, List.length_append, fails, ← m.isSome_told entry]
  cases h : m.told entry with
  | none => rw [List.filterMap_cons_none h]; rfl
  | some diagnostic => rw [List.filterMap_cons_some h]; rfl

/-- A call counts one more failed stretch if it is the first to fail since the last reset. -/
theorem countP_stretches_concat (entries : List (σ × κ)) (entry : σ × κ) :
    (m.stretches (entries ++ [entry])).countP (·.any m.fails) =
      (m.stretches entries).countP (·.any m.fails) +
        if m.fails entry && !(m.sinceReset entries).any m.fails then 1 else 0 := by
  obtain ⟨earlier, hold, hnew⟩ := m.exists_stretches_concat entries
  rw [hnew, hold]
  cases hreset : m.resets entry with
  | true =>
    rw [m.fails_of_not_passes (m.passes_of_resets hreset), if_pos rfl, List.countP_append]
    rfl
  | false =>
    rw [if_neg Bool.false_ne_true, List.countP_append, List.countP_append, List.countP_singleton,
      List.countP_singleton, List.any_append]
    cases hfails : m.fails entry <;> cases (m.sinceReset entries).any m.fails <;> simp [hfails]

theorem countP_sinceReset_concat (p : σ × κ → Bool) (entries : List (σ × κ)) (entry : σ × κ) :
    (m.sinceReset (entries ++ [entry])).countP p =
      if m.resets entry then 0 else (m.sinceReset entries).countP p + if p entry then 1 else 0 := by
  rw [sinceReset_concat]
  split
  · rfl
  · rw [List.countP_append, List.countP_singleton]

/-- What a call makes of the counters, unless they wrap. -/
theorem toNat_metrics_perform (s : σ) (call : κ)
    (hbound : (m.metrics s).written.toNat + (m.metrics s).failed.toNat +
      (if m.passes (s, call) then 1 else 0) < UInt64.size) :
    (m.metrics (m.perform s call)).written.toNat =
      (if m.resets (s, call) then 0 else (m.metrics s).written.toNat +
        if m.passes (s, call) && !m.fails (s, call) then 1 else 0) ∧
    (m.metrics (m.perform s call)).failed.toNat =
      (if m.resets (s, call) then 0 else (m.metrics s).failed.toNat +
        if m.fails (s, call) then 1 else 0) := by
  have hcounts := m.counts (s, call)
  cases hreset : m.resets (s, call) with
  | true =>
    rw [hcounts.reset hreset]
    exact ⟨rfl, rfl⟩
  | false =>
    cases hpasses : m.passes (s, call) with
    | false =>
      rw [hcounts.kept hpasses hreset, m.fails_of_not_passes hpasses]
      exact ⟨rfl, rfl⟩
    | true =>
      rw [hpasses, if_pos rfl, UInt64.size] at hbound
      cases hfails : m.fails (s, call) with
      | false =>
        rw [hcounts.written hpasses hfails]
        refine ⟨?_, rfl⟩
        show ((m.metrics s).written + 1).toNat = (m.metrics s).written.toNat + 1
        rw [UInt64.toNat_add, UInt64.toNat_one, Nat.mod_eq_of_lt (by omega)]
      | true =>
        rw [hcounts.failed hfails]
        refine ⟨rfl, ?_⟩
        show ((m.metrics s).failed + 1).toNat = (m.metrics s).failed.toNat + 1
        rw [UInt64.toNat_add, UInt64.toNat_one, Nat.mod_eq_of_lt (by omega)]

/-- One more call keeps the counters and the error stream in agreement with the history. -/
theorem Accounts.concat {s : σ} {entries : List (σ × κ)} (h : m.Accounts (m.metrics s) entries)
    {call : κ} (hbound : m.Bounded (entries ++ [(s, call)])) :
    m.Accounts (m.metrics (m.perform s call)) (entries ++ [(s, call)]) := by
  have hroom : (m.metrics s).written.toNat + (m.metrics s).failed.toNat +
      (if m.passes (s, call) then 1 else 0) < UInt64.size := by
    have hlast := hbound.sinceReset
    rw [countP_sinceReset_concat, ← h.sum] at hlast
    cases hreset : m.resets (s, call) with
    | false => rwa [hreset, if_neg Bool.false_ne_true] at hlast
    | true =>
      have hsofar := hbound.of_concat.sinceReset
      rwa [m.passes_of_resets hreset, h.sum]
  obtain ⟨hwritten, hfailed⟩ := toNat_metrics_perform s call hroom
  constructor
  · rw [hwritten, countP_sinceReset_concat, h.written]
  · rw [hfailed, countP_sinceReset_concat, h.failed]
  · rw [length_diagnostics_concat, countP_stretches_concat, h.told, h.failed_eq_zero]

/-- The counters and the error stream agree with the history of every run that starts with counters
at zero, as long as they do not wrap. -/
theorem accounts_run {s : σ} (hfresh : m.metrics s = {}) (calls : List κ)
    (hbound : m.Bounded (m.history s calls)) :
    m.Accounts (m.metrics (m.run s calls)) (m.history s calls) := by
  induction calls using List.reverseRecOn with
  | nil =>
    show m.Accounts (m.metrics s) []
    rw [hfresh]
    exact ⟨rfl, rfl, rfl⟩
  | append_singleton before call ih =>
    rw [history_concat] at hbound ⊢
    rw [run_concat]
    exact (ih hbound.of_concat).concat hbound

variable (m)

/-- A run of an appender is accounted for. Each call does to the counters what it should, so that in
the end they hold the events that passed since the last reset, with the failures apart. One diagnostic
is told of each stretch between resets in which an event failed, and no other. -/
structure Accounted (start : σ) (calls : List κ) : Prop where
  counts : ∀ entry ∈ m.history start calls, m.Counts entry
  total : (m.metrics (m.run start calls)).written.toNat +
      (m.metrics (m.run start calls)).failed.toNat =
    (m.sinceReset (m.history start calls)).countP m.passes
  failed : (m.metrics (m.run start calls)).failed.toNat =
    (m.sinceReset (m.history start calls)).countP m.fails
  told : (m.diagnostics (m.history start calls)).length =
    (m.stretches (m.history start calls)).countP (·.any m.fails)

theorem accounted (start : σ) (hfresh : m.metrics start = {}) (calls : List κ)
    (hbound : m.Bounded (m.history start calls)) : m.Accounted start calls := by
  have haccounts := accounts_run hfresh calls hbound
  exact ⟨fun entry _ => m.counts entry, haccounts.sum, haccounts.failed, haccounts.told⟩

end Meter

end EventLog
