import Mathlib.Data.List.DropRight
import EventLog.Proofs.Facility.Naming

/-!
# The appenders of a logger as a queue

Attaching an appender puts it at the end of the list, also where it is listed already, and detaching it
takes away the oldest of its entries. So the list is what has been attached since it was last cleared,
without the oldest entries of each appender, as many as detaching it has found (`appenders_run`). A call
to detach an appender that is not listed changes nothing and does not count for later entries.

What is left of a list of entries is said by places (`withoutOldest`): an entry stays if enough of its
own kind come before it. How this changes when one more entry comes, or one more is taken away, is all
that the induction along a run needs.
-/

namespace EventLog

/-! ## Lists without their oldest entries -/

section

variable {α : Type} [DecidableEq α] {counts : α → Nat}

/-- The entries of a list that come after as many of their own kind as are counted. -/
def withoutOldest (counts : α → Nat) (entries : List α) : List α :=
  (entries.zipIdx.filter fun entry => counts entry.1 ≤ (entries.take entry.2).count entry.1).map
    Prod.fst

theorem withoutOldest_concat (entries : List α) (a : α) :
    withoutOldest counts (entries ++ [a]) =
      withoutOldest counts entries ++ if counts a ≤ entries.count a then [a] else [] := by
  have hfront : ∀ entry ∈ entries.zipIdx,
      decide (counts entry.1 ≤ ((entries ++ [a]).take entry.2).count entry.1) =
        decide (counts entry.1 ≤ (entries.take entry.2).count entry.1) := by
    intro entry hentry
    have hplace := List.snd_lt_of_mem_zipIdx hentry
    rw [List.take_append_of_le_length (by omega)]
  rw [withoutOldest, withoutOldest, List.zipIdx_append, List.filter_append, List.map_append,
    List.filter_congr hfront]
  congr 1
  by_cases h : counts a ≤ entries.count a
  · simp [h]
  · simp [h]

/-- Of each kind as many are left as there are more than are counted. -/
theorem count_withoutOldest (entries : List α) (a : α) :
    (withoutOldest counts entries).count a = entries.count a - counts a := by
  induction entries using List.reverseRecOn with
  | nil => simp [withoutOldest]
  | append_singleton before b ih =>
    rw [withoutOldest_concat, List.count_append, List.count_append, ih]
    by_cases hb : b = a
    · subst hb
      rw [List.count_singleton_self]
      split
      · rw [List.count_singleton_self]
        omega
      · rw [List.count_nil]
        omega
    · have hnone : List.count a [b] = 0 := List.count_eq_zero.2 (by simpa using Ne.symm hb)
      rw [hnone]
      split
      · rw [hnone]
        rfl
      · rw [List.count_nil]
        rfl

theorem mem_withoutOldest_iff {entries : List α} {a : α} :
    a ∈ withoutOldest counts entries ↔ counts a < entries.count a := by
  rw [← List.count_pos_iff, count_withoutOldest]
  omega

/-- Taking away the first entry of a kind that is left leaves out one more of this kind. -/
theorem erase_withoutOldest {counts' : α → Nat} {a : α} (ha : counts' a = counts a + 1)
    (hne : ∀ b, b ≠ a → counts' b = counts b) (entries : List α) :
    (withoutOldest counts entries).erase a = withoutOldest counts' entries := by
  induction entries using List.reverseRecOn with
  | nil => rfl
  | append_singleton before b ih =>
    rw [withoutOldest_concat, withoutOldest_concat, ← ih, List.erase_append]
    by_cases hb : b = a
    · subst hb
      rw [ha]
      by_cases hmem : b ∈ withoutOldest counts before
      · -- An older one of the kind is taken away, and the last entry stays.
        have hle : counts b + 1 ≤ before.count b := mem_withoutOldest_iff.1 hmem
        rw [if_pos hmem, if_pos (by omega), if_pos hle]
      · have hle : ¬ counts b + 1 ≤ before.count b := fun h => hmem (mem_withoutOldest_iff.2 h)
        rw [if_neg hmem, if_neg hle, List.erase_of_not_mem hmem]
        split
        · rw [List.erase_cons_head]
        · rfl
    · have hlast : ∀ c ∈ (if counts b ≤ before.count b then [b] else []), c = b := by
        split
        · exact fun c hc => List.mem_singleton.1 hc
        · exact fun c hc => absurd hc List.not_mem_nil
      rw [hne b hb]
      split
      · rfl
      · next hmem =>
        rw [List.erase_of_not_mem hmem]
        rw [List.erase_of_not_mem fun h => hb (hlast a h).symm]

theorem withoutOldest_of_zero (entries : List α) : withoutOldest (fun _ => 0) entries = entries := by
  induction entries using List.reverseRecOn with
  | nil => rfl
  | append_singleton before a ih => rw [withoutOldest_concat, ih, if_pos (Nat.zero_le _)]

end

/-! ## What an operation does to a list -/

namespace Operation

variable (l : LoggerId)

/-- Whether an operation clears the list of a logger. -/
def clears : Operation → Bool
  | clearAppenders k => k == l
  | _ => false

/-- The appender that an operation attaches to a logger. -/
def attached? : Operation → Option AppenderId
  | addAppender k a => if k = l then some a else none
  | _ => none

/-- The list of a logger after an operation that found it as it is. -/
def relist (appenders : List AppenderId) : Operation → List AppenderId
  | addAppender k a => if k = l then appenders ++ [a] else appenders
  | delAppender k a => if k = l then appenders.erase a else appenders
  | clearAppenders k => if k = l then [] else appenders
  | _ => appenders

end Operation

namespace Facility

/-- If an operation logs an event, no appender that could be called changes a logger. -/
def LogsPassively (s : Facility) : Operation → Prop
  | .log _ _ _ => s.Passive
  | _ => True

variable {s t : Facility} {l : LoggerId}

/-- The loggers that were there have the appenders that they had. -/
def KeepsLists (s t : Facility) : Prop :=
  ∀ l : LoggerId, l.index < s.loggers.size → (t.logger l).appenders = (s.logger l).appenders

theorem KeepsLists.of_loggers (h : t.loggers = s.loggers) : KeepsLists s t := by
  intro l _
  rw [logger, logger, h]

theorem KeepsLists.modifyLogger (s : Facility) (k : LoggerId) {change : Logger → Logger}
    (h : ∀ entry, (change entry).appenders = entry.appenders) :
    KeepsLists s (s.modifyLogger k change) :=
  fun l _ => logger_modifyLogger_of_keeps Logger.appenders h s k l

theorem KeepsLists.setLevel (s : Facility) (k : LoggerId) (level : Level) :
    KeepsLists s (s.setLevel k level) :=
  .modifyLogger s k fun _ => rfl

theorem KeepsLists.setLayout (s : Facility) (k : LoggerId) (layout : SharedLayout) :
    KeepsLists s (s.setLayout k layout) :=
  .modifyLogger s k fun _ => rfl

theorem KeepsLists.newLogger (s : Facility) (name : String) :
    KeepsLists s (s.newLogger name).2 := by
  intro l hl
  rw [logger_newLogger, if_neg (by omega)]

theorem loggers_inherit (l : LoggerId) (a : AppenderId) (s : Facility) :
    (s.inherit l a).loggers = s.loggers := by
  unfold inherit
  split <;> rfl

/-- A change of one logger's list by a function of it. -/
theorem appenders_modifyLogger (hl : l.index < s.loggers.size) (k : LoggerId)
    (change : List AppenderId → List AppenderId) :
    ((s.modifyLogger k fun entry => { entry with appenders := change entry.appenders }).logger
        l).appenders =
      if k = l then change (s.logger l).appenders else (s.logger l).appenders := by
  by_cases hk : k = l
  · subst hk
    rw [if_pos rfl, logger_modifyLogger_self hl]
  · rw [if_neg hk, logger_modifyLogger_of_ne (Ne.symm hk)]

theorem appenders_addAppender (hl : l.index < s.loggers.size) (k : LoggerId) (a : AppenderId) :
    ((s.addAppender k a).logger l).appenders =
      if k = l then (s.logger l).appenders ++ [a] else (s.logger l).appenders := by
  have hlogger : (s.inherit k a).logger l = s.logger l := by
    rw [logger, logger, loggers_inherit]
  have hl' : l.index < (s.inherit k a).loggers.size := by rwa [loggers_inherit]
  rw [addAppender, appenders_modifyLogger hl' k (· ++ [a]), hlogger]

theorem appenders_delAppender (hl : l.index < s.loggers.size) (k : LoggerId) (a : AppenderId) :
    ((s.delAppender k a).logger l).appenders =
      if k = l then (s.logger l).appenders.erase a else (s.logger l).appenders :=
  appenders_modifyLogger hl k (·.erase a)

theorem appenders_clearAppenders (hl : l.index < s.loggers.size) (k : LoggerId) :
    ((s.clearAppenders k).logger l).appenders =
      if k = l then [] else (s.logger l).appenders :=
  appenders_modifyLogger hl k fun _ => []

/-- The list of a logger after an operation depends on nothing but the list before. -/
theorem appenders_perform (hl : l.index < s.loggers.size) {operation : Operation}
    (h : s.LogsPassively operation) :
    ((s.perform operation).logger l).appenders = operation.relist l (s.logger l).appenders := by
  cases operation with
  | newLogger name => exact KeepsLists.newLogger s name l hl
  | setLevel k level => exact KeepsLists.setLevel s k level l hl
  | setLayout k layout => exact KeepsLists.setLayout s k layout l hl
  | setPattern k pattern =>
    rw [perform, setPattern_snd]
    split
    · rfl
    · exact KeepsLists.setLayout (s.compile pattern).2 k _ l hl
  | addAppender k a => exact appenders_addAppender hl k a
  | delAppender k a => exact appenders_delAppender hl k a
  | clearAppenders k => exact appenders_clearAppenders hl k
  | flush k => exact KeepsLists.of_loggers (sameSetup_flushAll s _).loggers l hl
  | log k level event =>
    exact KeepsLists.of_loggers (Passive.sameSetup_log k level event s h).loggers l hl
  | newFile path =>
    obtain ⟨diagnostic, hd⟩ := exists_newFileAppender_snd path s
    rw [perform, hd]
    exact KeepsLists.of_loggers (writes_reopen _ (s.newAppender (.file { path })).2).loggers l hl
  | openFile path =>
    rw [perform, openFileAppender_snd]
    exact KeepsLists.of_loggers (writes_reopen _ (s.newAppender (.file { path })).2).loggers l hl
  | take a => exact KeepsLists.of_loggers (writes_take a s).loggers l hl
  | flushAppender a => exact KeepsLists.of_loggers (writes_flushAppender a s).loggers l hl
  | reopen a => exact KeepsLists.of_loggers (writes_reopen a s).loggers l hl
  | resetMetrics a => exact KeepsLists.of_loggers (writes_resetMetrics a s).loggers l hl
  | _ => rfl

/-! ## The history of a list -/

/-- The last operations of a history, since the list of a logger was last cleared. -/
def sinceCleared (l : LoggerId) (entries : List (Facility × Operation)) :
    List (Facility × Operation) :=
  entries.rtakeWhile fun entry => !entry.2.clears l

/-- What a history has attached to a logger since its list was last cleared, behind what was there at
first if it was never cleared. -/
def attachments (l : LoggerId) (initial : List AppenderId)
    (entries : List (Facility × Operation)) : List AppenderId :=
  (if entries.any (·.2.clears l) then [] else initial) ++
    (sinceCleared l entries).filterMap (·.2.attached? l)

/-- Whether an operation detaches an appender that it finds in the list of a logger. -/
def detaches (l : LoggerId) (a : AppenderId) (entry : Facility × Operation) : Bool :=
  match entry.2 with
  | .delAppender k b => k == l && b == a && (entry.1.logger l).appenders.contains a
  | _ => false

/-- How often a history has detached an appender that was found in the list of a logger, since the list
was last cleared. -/
def detachments (l : LoggerId) (entries : List (Facility × Operation)) (a : AppenderId) : Nat :=
  (sinceCleared l entries).countP (detaches l a)

theorem sinceCleared_concat (l : LoggerId) (entries : List (Facility × Operation))
    (entry : Facility × Operation) :
    sinceCleared l (entries ++ [entry]) =
      if entry.2.clears l then [] else sinceCleared l entries ++ [entry] := by
  rw [sinceCleared, List.rtakeWhile_concat]
  cases entry.2.clears l <;> rfl

theorem attachments_concat (l : LoggerId) (initial : List AppenderId)
    (entries : List (Facility × Operation)) (entry : Facility × Operation) :
    attachments l initial (entries ++ [entry]) =
      if entry.2.clears l then []
      else attachments l initial entries ++ (entry.2.attached? l).toList := by
  have hany : (entries ++ [entry]).any (·.2.clears l) =
      (entries.any (·.2.clears l) || entry.2.clears l) := by
    simp
  rw [attachments, attachments, sinceCleared_concat, hany]
  cases entry.2.clears l with
  | true => rw [Bool.or_true, if_pos rfl, if_pos rfl, if_pos rfl, List.filterMap_nil, List.append_nil]
  | false =>
    rw [Bool.or_false, if_neg Bool.false_ne_true, if_neg Bool.false_ne_true, List.filterMap_append,
      List.append_assoc]
    cases hattached : entry.2.attached? l <;> simp [hattached]

theorem detachments_concat (l : LoggerId) (entries : List (Facility × Operation))
    (entry : Facility × Operation) (a : AppenderId) :
    detachments l (entries ++ [entry]) a =
      if entry.2.clears l then 0
      else detachments l entries a + if detaches l a entry then 1 else 0 := by
  rw [detachments, detachments, sinceCleared_concat]
  split
  · rfl
  · rw [List.countP_append, List.countP_singleton]

/-- What an operation is to the list of a logger. -/
theorem list_cases (l : LoggerId) (s : Facility) (operation : Operation) :
    operation = .clearAppenders l ∨ (∃ a, operation = .addAppender l a) ∨
      (∃ a, operation = .delAppender l a) ∨
      operation.clears l = false ∧ operation.attached? l = none ∧
        (∀ appenders, operation.relist l appenders = appenders) ∧
        ∀ a, detaches l a (s, operation) = false := by
  cases operation with
  | addAppender k a =>
    by_cases hk : k = l
    · exact .inr (.inl ⟨a, by rw [hk]⟩)
    · exact .inr (.inr (.inr ⟨rfl, if_neg hk, fun _ => if_neg hk, fun _ => rfl⟩))
  | delAppender k a =>
    by_cases hk : k = l
    · exact .inr (.inr (.inl ⟨a, by rw [hk]⟩))
    · refine .inr (.inr (.inr ⟨rfl, rfl, fun _ => if_neg hk, fun b => ?_⟩))
      simp [detaches, hk]
  | clearAppenders k =>
    by_cases hk : k = l
    · exact .inl (by rw [hk])
    · exact .inr (.inr (.inr ⟨beq_false_of_ne hk, rfl, fun _ => if_neg hk, fun _ => rfl⟩))
  | _ => exact .inr (.inr (.inr ⟨rfl, rfl, fun _ => rfl, fun _ => rfl⟩))

/-- The list of a logger is what its history has attached, without the oldest entries of each appender
that its history has detached; and of each appender no more was detached than attached. -/
structure IsQueue (l : LoggerId) (initial : List AppenderId) (entries : List (Facility × Operation))
    (appenders : List AppenderId) : Prop where
  eq : appenders = withoutOldest (detachments l entries) (attachments l initial entries)
  le : ∀ a, detachments l entries a ≤ (attachments l initial entries).count a

namespace IsQueue

variable {initial appenders : List AppenderId} {entries : List (Facility × Operation)}

theorem nil (l : LoggerId) (initial : List AppenderId) : IsQueue l initial [] initial := by
  have hlist : attachments l initial [] = initial := List.append_nil initial
  refine ⟨?_, fun a => Nat.zero_le _⟩
  rw [hlist]
  exact (withoutOldest_of_zero initial).symm

theorem clear (s : Facility) :
    IsQueue l initial (entries ++ [(s, .clearAppenders l)]) [] := by
  have hclears : (Operation.clearAppenders l).clears l = true := beq_self_eq_true l
  refine ⟨?_, fun a => ?_⟩
  · rw [attachments_concat, if_pos hclears]
    rfl
  · rw [detachments_concat, if_pos hclears]
    exact Nat.zero_le _

theorem attach (h : IsQueue l initial entries appenders) (s : Facility) (a : AppenderId) :
    IsQueue l initial (entries ++ [(s, .addAppender l a)]) (appenders ++ [a]) := by
  have hattached : (Operation.addAppender l a).attached? l = some a := if_pos rfl
  have hlist : attachments l initial (entries ++ [(s, .addAppender l a)]) =
      attachments l initial entries ++ [a] := by
    rw [attachments_concat, hattached]
    rfl
  have hcount : detachments l (entries ++ [(s, .addAppender l a)]) = detachments l entries := by
    funext b
    rw [detachments_concat]
    rfl
  refine ⟨?_, fun b => ?_⟩
  · rw [hlist, hcount, withoutOldest_concat, if_pos (h.le a), ← h.eq]
  · rw [hlist, hcount, List.count_append]
    exact (h.le b).trans (Nat.le_add_right _ _)

/-- Detaching an appender that is listed takes away the oldest of its entries that are left. -/
theorem detach (h : IsQueue l initial entries appenders) (hs : (s.logger l).appenders = appenders)
    {a : AppenderId} (ha : a ∈ appenders) :
    IsQueue l initial (entries ++ [(s, .delAppender l a)]) (appenders.erase a) := by
  have hlist : attachments l initial (entries ++ [(s, .delAppender l a)]) =
      attachments l initial entries := by
    rw [attachments_concat]
    exact List.append_nil _
  have hself : detachments l (entries ++ [(s, .delAppender l a)]) a =
      detachments l entries a + 1 := by
    rw [detachments_concat]
    simp [Operation.clears, detaches, hs, ha]
  have hother : ∀ b, b ≠ a → detachments l (entries ++ [(s, .delAppender l a)]) b =
      detachments l entries b := by
    intro b hb
    rw [detachments_concat]
    simp [Operation.clears, detaches, Ne.symm hb]
  refine ⟨?_, fun b => ?_⟩
  · rw [hlist, ← erase_withoutOldest hself hother, ← h.eq]
  · rw [hlist]
    by_cases hb : b = a
    · subst hb
      rw [h.eq, mem_withoutOldest_iff] at ha
      rw [hself]
      exact ha
    · rw [hother b hb]
      exact h.le b

/-- An operation that does nothing to the list of a logger does not count. -/
theorem keep (h : IsQueue l initial entries appenders) {entry : Facility × Operation}
    (hclears : entry.2.clears l = false) (hattached : entry.2.attached? l = none)
    (hdetaches : ∀ a, detaches l a entry = false) :
    IsQueue l initial (entries ++ [entry]) appenders := by
  have hlist : attachments l initial (entries ++ [entry]) = attachments l initial entries := by
    rw [attachments_concat, hclears, hattached]
    exact List.append_nil _
  have hcount : detachments l (entries ++ [entry]) = detachments l entries := by
    funext a
    rw [detachments_concat, hclears, hdetaches]
    rfl
  refine ⟨?_, ?_⟩
  · rw [hlist, hcount]
    exact h.eq
  · rw [hlist, hcount]
    exact h.le

/-- Whatever an operation does to the list of a logger, the list stays what its history makes of it. -/
theorem relist (h : IsQueue l initial entries appenders) (hs : (s.logger l).appenders = appenders)
    (operation : Operation) :
    IsQueue l initial (entries ++ [(s, operation)]) (operation.relist l appenders) := by
  rcases list_cases l s operation with rfl | ⟨a, rfl⟩ | ⟨a, rfl⟩ | ⟨hclears, hattached, hkept, hnone⟩
  · rw [Operation.relist, if_pos rfl]
    exact .clear s
  · rw [Operation.relist, if_pos rfl]
    exact h.attach s a
  · rw [Operation.relist, if_pos rfl]
    by_cases ha : a ∈ appenders
    · exact h.detach hs ha
    · -- An appender that is not listed is not found, and that is all the history counts.
      rw [List.erase_of_not_mem ha]
      refine h.keep rfl rfl fun b => ?_
      by_cases hb : b = a
      · subst hb
        simp [detaches, hs, ha]
      · simp [detaches, Ne.symm hb]
  · rw [hkept]
    exact h.keep hclears hattached hnone

end IsQueue

/-- After every run the list of a logger is what the history of the run makes of it. -/
theorem isQueue_run (hl : l.index < s.loggers.size) (operations : List Operation)
    (h : ∀ entry ∈ s.history operations, entry.1.LogsPassively entry.2) :
    IsQueue l (s.logger l).appenders (s.history operations)
      ((s.run operations).logger l).appenders := by
  induction operations using List.reverseRecOn with
  | nil => exact .nil l _
  | append_singleton before operation ih =>
    have hhistory : s.history (before ++ [operation]) =
        s.history before ++ [(s.run before, operation)] := history_append s before [operation]
    rw [hhistory] at h ⊢
    have hbefore := ih fun entry hentry => h entry (List.mem_append_left _ hentry)
    have hlast := h (s.run before, operation) (List.mem_append_right _ (List.mem_singleton_self _))
    have hsize : l.index < (s.run before).loggers.size :=
      Nat.lt_of_lt_of_le hl (KeepsNames.run s before).size
    have hstep : ((s.run (before ++ [operation])).logger l).appenders =
        operation.relist l ((s.run before).logger l).appenders := by
      rw [run_append]
      exact appenders_perform hsize hlast
    rw [hstep]
    exact hbefore.relist rfl operation

/-! ## Detaching -/

/-- Detaching an appender that is not listed changes nothing. -/
theorem delAppender_of_not_mem {a : AppenderId} (ha : a ∉ (s.logger l).appenders) :
    s.delAppender l a = s := by
  refine congrArg (fun loggers => { s with loggers }) (Store.modify_eq_self ?_)
  show { s.logger l with appenders := (s.logger l).appenders.erase a } = s.logger l
  rw [List.erase_of_not_mem ha]

theorem delAppender_comm (s : Facility) (l : LoggerId) (a b : AppenderId) :
    (s.delAppender l a).delAppender l b = (s.delAppender l b).delAppender l a := by
  refine congrArg (fun loggers => { s with loggers }) ?_
  refine (Store.modify_modify ..).trans (Eq.trans ?_ (Store.modify_modify ..).symm)
  refine congrArg (s.loggers.modify l.index) (funext fun entry => ?_)
  exact congrArg (fun appenders => { entry with appenders }) (List.erase_comm a b)

/-- Detaching takes away the oldest entry and keeps the others in order. -/
theorem appenders_delAppender_of_split (hl : l.index < s.loggers.size) {a : AppenderId}
    {before after : List AppenderId} (ha : a ∉ before)
    (hlist : (s.logger l).appenders = before ++ a :: after) :
    ((s.delAppender l a).logger l).appenders = before ++ after := by
  rw [appenders_delAppender hl, if_pos rfl, hlist, List.erase_append_right _ ha,
    List.erase_cons_head]

theorem appenders_addAppender_delAppender (hl : l.index < s.loggers.size) (a : AppenderId) :
    (((s.addAppender l a).delAppender l a).logger l).appenders =
      ((s.logger l).appenders ++ [a]).erase a := by
  have hl' : l.index < (s.addAppender l a).loggers.size :=
    Nat.lt_of_lt_of_le hl (KeepsNames.addAppender l a s).size
  rw [appenders_delAppender hl', if_pos rfl, appenders_addAppender hl, if_pos rfl]

theorem appenders_addAppender_delAppender_of_not_mem (hl : l.index < s.loggers.size)
    {a : AppenderId} (ha : a ∉ (s.logger l).appenders) :
    (((s.addAppender l a).delAppender l a).logger l).appenders = (s.logger l).appenders := by
  rw [appenders_addAppender_delAppender hl, List.erase_append_right _ ha, List.erase_cons_head,
    List.append_nil]

/-- An appender that is attached once more and then detached moves its oldest entry to the end. -/
theorem appenders_addAppender_delAppender_of_split (hl : l.index < s.loggers.size)
    {a : AppenderId} {before after : List AppenderId} (ha : a ∉ before)
    (hlist : (s.logger l).appenders = before ++ a :: after) :
    (((s.addAppender l a).delAppender l a).logger l).appenders = before ++ after ++ [a] := by
  rw [appenders_addAppender_delAppender hl, hlist, List.append_assoc, List.erase_append_right _ ha,
    List.cons_append, List.erase_cons_head, List.append_assoc]

/-- The list of a logger is a queue for each appender. After every run it is what has been attached since
it was last cleared, in that order, without the oldest entries of each appender, as many as were found
when it was detached; these are no more than were attached. Detaching an appender that is not listed
changes nothing, even if others like it are; and else it takes away the oldest entry and keeps the others
in order. It does not matter in which order two appenders are detached. Attaching an appender and then
detaching it leaves a list without it as it was, and in any other it moves the oldest entry to the end.

Other operations may come between, as long as no appender that is called in a run changes loggers. -/
theorem appenders_run (s : Facility) (l : LoggerId) (hl : l.index < s.loggers.size)
    (operations : List Operation)
    (h : ∀ entry ∈ s.history operations, entry.1.LogsPassively entry.2) :
    let entries := s.history operations
    let attached := attachments l (s.logger l).appenders entries
    let final := s.run operations
    let appenders := (final.logger l).appenders
    appenders = withoutOldest (detachments l entries) attached ∧
    (∀ a, detachments l entries a ≤ attached.count a) ∧
    (∀ a b, (final.delAppender l a).delAppender l b = (final.delAppender l b).delAppender l a) ∧
    (∀ a, a ∉ appenders → final.delAppender l a = final ∧
      (((final.addAppender l a).delAppender l a).logger l).appenders = appenders) ∧
    (∀ a before after, a ∉ before → appenders = before ++ a :: after →
      ((final.delAppender l a).logger l).appenders = before ++ after ∧
      (((final.addAppender l a).delAppender l a).logger l).appenders = before ++ after ++ [a]) := by
  intro entries attached final appenders
  have hqueue := isQueue_run hl operations h
  have hl' : l.index < final.loggers.size :=
    Nat.lt_of_lt_of_le hl (KeepsNames.run s operations).size
  refine ⟨hqueue.eq, hqueue.le, delAppender_comm final l, fun a ha => ?_,
    fun a before after ha hlist => ?_⟩
  · exact ⟨delAppender_of_not_mem ha, appenders_addAppender_delAppender_of_not_mem hl' ha⟩
  · exact ⟨appenders_delAppender_of_split hl' ha hlist,
      appenders_addAppender_delAppender_of_split hl' ha hlist⟩

/-- An appender is attached twice and detached once between attachments of another that is just like it,
which was not found when it was detached first. -/
theorem appenders_run_of_alike :
    let shown : SharedLayout := ⟨0, { pattern := "%m", items := [.field .message], hasError := false }⟩
    let s : Facility :=
      { loggers := ⟨[{ name := "net", layout := shown }]⟩
        appenders := ⟨[{ layout := shown, sink := .memory [] }, { layout := shown, sink := .memory [] }]⟩ }
    let event : Event :=
      { owner := ⟨0⟩, level := .info, file := "main.rs", line := 1,
        stamp := { elapse := 0, thread := 1, fiber := 0, time := 0 }, message := "up" }
    let operations : List Operation :=
      [.addAppender ⟨0⟩ ⟨0⟩, .delAppender ⟨0⟩ ⟨1⟩, .addAppender ⟨0⟩ ⟨1⟩, .addAppender ⟨0⟩ ⟨0⟩,
        .delAppender ⟨0⟩ ⟨0⟩, .log ⟨0⟩ .info event]
    let final := s.run operations
    (final.logger ⟨0⟩).appenders = [⟨1⟩, ⟨0⟩] ∧
      (((final.addAppender ⟨0⟩ ⟨1⟩).delAppender ⟨0⟩ ⟨1⟩).logger ⟨0⟩).appenders = [⟨0⟩, ⟨1⟩] := by
  intro shown s event operations final
  have hreaction : ∀ a, ((s.run (operations.take 5)).appender a).sink.reaction? = none := by
    rintro ⟨_ | _ | index⟩
    all_goals rfl
  have hpassive : (s.run (operations.take 5)).Passive := by
    intro a reaction ha
    rw [hreaction a] at ha
    cases ha
  have hlogs : ∀ entry ∈ s.history operations, entry.1.LogsPassively entry.2 := by
    simp only [operations, history, List.forall_mem_cons]
    exact ⟨trivial, trivial, trivial, trivial, trivial, hpassive, List.forall_mem_nil _⟩
  obtain ⟨hlist, -, -, -, hsplit⟩ := appenders_run s ⟨0⟩ (by decide) operations hlogs
  have hqueue : (final.logger ⟨0⟩).appenders = [⟨1⟩, ⟨0⟩] := by
    rw [hlist]
    decide +kernel
  exact ⟨hqueue, (hsplit ⟨1⟩ [] [⟨0⟩] List.not_mem_nil hqueue).2⟩

end Facility

end EventLog
