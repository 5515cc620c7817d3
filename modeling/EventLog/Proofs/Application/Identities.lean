import Mathlib.Data.List.Induction
import EventLog.Application.Crew

/-!
# Who a thread is

The name of a thread is kept twice: by the thread itself, and in the identity that it shares with its
handle. `Threads.Sound` says that the two agree and that no two threads share an identity; every
operation on threads keeps it.

What a step does to the threads is said once (`Crew.Moved`): it changes the thread that takes it, and
adds one at most. So the name and the fiber number of a thread are the last that the thread itself
has set, or those that it started with, in whatever order threads take their steps
(`Crew.identities_run`).
-/

namespace EventLog

namespace Threads

variable {ts : Threads}

/-! ## The state of a thread after a change -/

/-- A thread that is not there has published nothing. -/
theorem info_of_size_le {t : ThreadId} (h : ts.states.size ≤ t.index) :
    (ts.state t).info = none := by
  rw [state, ts.states.get_of_size_le h]
  rfl

theorem lt_of_info {t : ThreadId} {info : Nat} (h : (ts.state t).info = some info) :
    t.index < ts.states.size := by
  refine Nat.lt_of_not_le fun hle => ?_
  rw [info_of_size_le hle] at h
  cases h

theorem state_make (ts : Threads) (u : ThreadId) :
    ts.make.2.state u =
      if u.index = ts.states.size then { number := ts.numbers ts.states.size } else ts.state u :=
  ts.states.get_push _ u.index

/-- A thread that is started by name publishes its identity with its number, and takes the name from
there. -/
theorem start_eq (name : String) (ts : Threads) :
    ts.start name =
      ({ thread := ⟨ts.states.size⟩, info := ts.infos.size },
        { ts with
          states := ts.states.push
            { number := ts.numbers ts.states.size, name, info := some ts.infos.size }
          infos := ts.infos.push { name, number := ts.numbers ts.states.size } }) := by
  unfold start make publish
  dsimp only
  rw [Store.modify_push_size, Store.modify_push_size, Store.get_push, if_pos rfl, state,
    Store.get_push, if_pos rfl]

theorem state_start (name : String) (ts : Threads) (u : ThreadId) :
    (ts.start name).2.state u =
      if u.index = ts.states.size then
        { number := ts.numbers ts.states.size, name, info := some ts.infos.size }
      else ts.state u := by
  rw [start_eq]
  exact ts.states.get_push _ u.index

theorem state_modify (ts : Threads) (t u : ThreadId) (infos : Store ThreadInfo)
    (change : ThreadState → ThreadState) :
    ({ ts with states := ts.states.modify t.index change, infos } : Threads).state u =
      if u = t ∧ t.index < ts.states.size then change (ts.state u) else ts.state u := by
  simp only [ThreadId.ext_iff]
  exact ts.states.get_modify t.index u.index change

theorem state_rename (ts : Threads) (t u : ThreadId) (name : String) :
    (ts.rename t name).state u =
      if u = t ∧ t.index < ts.states.size then { ts.state u with name } else ts.state u :=
  state_modify ts t u _ _

/-- The system takes every name that does not hold the character that ends names. -/
theorem isValidName_startName {name : String} (h : '\x00' ∉ name.toList) :
    isValidName (startName name) = true := by
  unfold startName
  split
  · decide
  · simpa [isValidName] using h

/-! ## Identities and their threads -/

/-- Every identity that a thread has published is its own, and shows its name and its number. -/
structure Sound (ts : Threads) : Prop where
  published : ∀ t info, (ts.state t).info = some info →
    info < ts.infos.size ∧
      ts.infos.get info = { name := (ts.state t).name, number := (ts.state t).number }
  apart : ∀ t u info, (ts.state t).info = some info → (ts.state u).info = some info → t = u

theorem Sound.this (h : ts.Sound) (t : ThreadId) :
    ts.this t = (ts.state t).info.map fun _ =>
      { name := (ts.state t).name, number := (ts.state t).number } := by
  rw [Threads.this]
  cases hinfo : (ts.state t).info with
  | none => rfl
  | some info => exact congrArg some (h.published t info hinfo).2

theorem info_alone (numbers : Nat → Nat) (t : ThreadId) :
    ((Threads.alone numbers).state t).info = none := by
  obtain ⟨_ | index⟩ := t <;> rfl

theorem sound_alone (numbers : Nat → Nat) : (Threads.alone numbers).Sound := by
  constructor
  · intro t info h
    rw [info_alone] at h
    cases h
  · intro t u info h
    rw [info_alone] at h
    cases h

/-- A change that shows in no identity. -/
theorem Sound.of_kept (h : ts.Sound) {ts' : Threads} (hinfos : ts'.infos = ts.infos)
    (hkept : ∀ t info, (ts'.state t).info = some info → (ts.state t).info = some info ∧
      (ts'.state t).name = (ts.state t).name ∧ (ts'.state t).number = (ts.state t).number) :
    ts'.Sound := by
  constructor
  · intro t info hinfo
    obtain ⟨hold, hname, hnumber⟩ := hkept t info hinfo
    rw [hinfos, hname, hnumber]
    exact h.published t info hold
  · intro t u info ht hu
    exact h.apart t u info (hkept t info ht).1 (hkept u info hu).1

theorem Sound.make (h : ts.Sound) : ts.make.2.Sound := by
  refine h.of_kept rfl fun t info hinfo => ?_
  rw [state_make] at hinfo ⊢
  split at hinfo
  · cases hinfo
  · next hne =>
    rw [if_neg hne]
    exact ⟨hinfo, rfl, rfl⟩

theorem Sound.modify (h : ts.Sound) (t : ThreadId) {change : ThreadState → ThreadState}
    (hchange : ∀ state, (change state).info = state.info ∧ (change state).name = state.name ∧
      (change state).number = state.number) :
    ({ ts with states := ts.states.modify t.index change } : Threads).Sound := by
  refine h.of_kept rfl fun u info hinfo => ?_
  rw [state_modify ts t u ts.infos change] at hinfo ⊢
  split at hinfo
  · next hand =>
    obtain ⟨hinfo', hname, hnumber⟩ := hchange (ts.state u)
    rw [if_pos hand]
    exact ⟨hinfo' ▸ hinfo, hname, hnumber⟩
  · next hand =>
    rw [if_neg hand]
    exact ⟨hinfo, rfl, rfl⟩

theorem Sound.start (h : ts.Sound) (name : String) : (ts.start name).2.Sound := by
  have hinfos : (ts.start name).2.infos =
      ts.infos.push { name, number := ts.numbers ts.states.size } := by rw [start_eq]
  constructor
  · intro t info hinfo
    rw [state_start] at hinfo ⊢
    rw [hinfos, Store.size_push, Store.get_push]
    split at hinfo
    · next hnew =>
      cases hinfo
      rw [if_pos hnew, if_pos rfl]
      exact ⟨by omega, rfl⟩
    · next hne =>
      obtain ⟨hlt, hget⟩ := h.published t info hinfo
      rw [if_neg hne, if_neg (by omega)]
      exact ⟨by omega, hget⟩
  · intro t u info ht hu
    rw [state_start] at ht hu
    split at ht
    · next htn =>
      split at hu
      · next hun => exact ThreadId.ext (htn.trans hun.symm)
      · -- An identity that was there before is not the new one.
        cases ht
        exact absurd (h.published u _ hu).1 (Nat.lt_irrefl _)
    · split at hu
      · cases hu
        exact absurd (h.published t _ ht).1 (Nat.lt_irrefl _)
      · exact h.apart t u info ht hu

theorem size_infos_rename (ts : Threads) (t : ThreadId) (name : String) :
    (ts.rename t name).infos.size = ts.infos.size := by
  unfold rename
  dsimp only
  split
  · rfl
  · exact Store.size_modify ..

/-- Renaming a thread renames its identity, and no other. -/
theorem Sound.infos_rename (h : ts.Sound) (t : ThreadId) (name : String) {u : ThreadId} {info : Nat}
    (hu : (ts.state u).info = some info) :
    (ts.rename t name).infos.get info =
      if u = t then { ts.infos.get info with name } else ts.infos.get info := by
  unfold rename
  dsimp only
  split
  · next ht =>
    have hne : u ≠ t := by
      rintro rfl
      rw [ht] at hu
      cases hu
    rw [if_neg hne]
  · next own ht =>
    rw [Store.get_modify]
    by_cases heq : u = t
    · subst heq
      cases ht.symm.trans hu
      rw [if_pos rfl, if_pos ⟨rfl, (h.published u _ hu).1⟩]
    · have hne : info ≠ own := by
        rintro rfl
        exact heq (h.apart u t info hu ht)
      rw [if_neg heq, if_neg fun hand => hne hand.1]

theorem Sound.rename (h : ts.Sound) (t : ThreadId) (name : String) : (ts.rename t name).Sound := by
  have hinfo : ∀ u, ((ts.rename t name).state u).info = (ts.state u).info := by
    intro u
    rw [state_rename]
    split <;> rfl
  constructor
  · intro u info hu
    rw [hinfo] at hu
    obtain ⟨hlt, hget⟩ := h.published u info hu
    rw [size_infos_rename, h.infos_rename t name hu, state_rename, hget]
    refine ⟨hlt, ?_⟩
    by_cases heq : u = t
    · subst heq
      rw [if_pos rfl, if_pos ⟨rfl, lt_of_info hu⟩]
    · rw [if_neg heq, if_neg fun hand => heq hand.1]
  · intro u v info hu hv
    rw [hinfo] at hu hv
    exact h.apart u v info hu hv

end Threads

namespace Application

variable {p p' : Application}

theorem threads_report (t : ThreadId) (failure : Failure) (p : Application) :
    (p.report t failure).threads = p.threads := by
  unfold report shorthand
  split <;> rfl

/-- Joining changes no thread, and no more of a handle than that it is joined. -/
theorem join_keeps {t : ThreadId} {handle handle' : ThreadHandle} {result : Except Error Unit}
    (h : p.join t handle = some (result, handle', p')) :
    p'.threads = p.threads ∧ handle'.thread = handle.thread ∧ handle'.info = handle.info := by
  unfold join at h
  split at h
  · cases h
    exact ⟨rfl, rfl, rfl⟩
  · dsimp only at h
    split at h
    · cases h
    · cases h
      exact ⟨rfl, rfl, rfl⟩
    · cases h
      exact ⟨threads_report .., rfl, rfl⟩

end Application

namespace Crew

/-! ## What a step does -/

/-- What a step makes of the thread that takes it. -/
def Step.act (step : Step) (state : ThreadState) : ThreadState :=
  match step with
  | .rename name => { state with name }
  | .setFiber fiber => { state with fiber }
  | .finish panic => { state with status := .ended panic }
  | _ => state

/-- The thread that a step starts, if it starts one: by the name that is given, or past the library. -/
def Step.origin? : Step → Option (Option String)
  | .spawn name =>
    if Threads.isValidName (Threads.startName name) then some (some (Threads.startName name))
    else none
  | .make => some none
  | _ => none

/-- Which threads the handles are of, and which identities they show. -/
def links (c : Crew) : List (ThreadId × Nat) :=
  c.handles.map fun handle => (handle.thread, handle.info)

/-- A step changes no thread but the one that takes it, adds the one that it starts, and hands out a
handle for the identity of that one if it has an identity. -/
structure Moved (t : ThreadId) (step : Step) (c c' : Crew) : Prop where
  runs : c.Runs t
  numbers : c'.threads.numbers = c.threads.numbers
  size : c'.threads.states.size = c.threads.states.size + step.origin?.toList.length
  old : ∀ u, u.index < c.threads.states.size → c'.threads.state u =
    if u = t then step.act (c.threads.state u) else c.threads.state u
  new : ∀ origin, step.origin? = some origin →
    c'.threads.state ⟨c.threads.states.size⟩ =
      { number := c.threads.numbers c.threads.states.size
        name := origin.getD unknownThreadName
        info := origin.map fun _ => c.threads.infos.size }
  links : c'.links = c.links ++
    ((c'.threads.state ⟨c.threads.states.size⟩).info.map fun info =>
      (⟨c.threads.states.size⟩, info)).toList
  sound : c.threads.Sound → c'.threads.Sound

variable {c c' : Crew} {t : ThreadId} {step : Step}

/-- A step that leaves all threads as they are, and their handles but for the joining. -/
theorem Moved.of_same (hruns : c.Runs t) (horigin : step.origin? = none)
    (hact : ∀ state, step.act state = state) (hthreads : c'.threads = c.threads)
    (hlinks : c'.links = c.links) : Moved t step c c' where
  runs := hruns
  numbers := by rw [hthreads]
  size := by rw [hthreads, horigin]; rfl
  old u _ := by rw [hthreads, hact, ite_self]
  new origin h := by
    rw [horigin] at h
    cases h
  links := by
    have hnone : (c.threads.state ⟨c.threads.states.size⟩).info = none :=
      Threads.info_of_size_le (Nat.le_refl _)
    rw [hthreads, hlinks, hnone]
    exact (List.append_nil _).symm
  sound h := by rwa [hthreads]

/-- A step by which a thread changes its own state. -/
theorem Moved.of_modify (hruns : c.Runs t) (horigin : step.origin? = none)
    {infos : Store ThreadInfo}
    (hthreads : c'.threads =
      { c.threads with states := c.threads.states.modify t.index step.act, infos })
    (hhandles : c'.handles = c.handles) (hsound : c.threads.Sound → c'.threads.Sound) :
    Moved t step c c' where
  runs := hruns
  numbers := by rw [hthreads]
  size := by rw [hthreads, Store.size_modify, horigin]; rfl
  old u _ := by
    rw [hthreads, Threads.state_modify]
    by_cases h : u = t
    · rw [if_pos h, if_pos ⟨h, hruns.1⟩]
    · rw [if_neg h, if_neg fun hand => h hand.1]
  new origin h := by
    rw [horigin] at h
    cases h
  links := by
    have hsize : c'.threads.states.size = c.threads.states.size := by
      rw [hthreads, Store.size_modify]
    have hnone : (c'.threads.state ⟨c.threads.states.size⟩).info = none :=
      Threads.info_of_size_le (Nat.le_of_eq hsize)
    rw [hnone, Crew.links, hhandles]
    exact (List.append_nil _).symm
  sound := hsound

/-- A step that starts a thread. -/
theorem Moved.of_push (hruns : c.Runs t) (hact : ∀ state, step.act state = state)
    {origin : Option String} (horigin : step.origin? = some origin) {infos : Store ThreadInfo}
    (hthreads : c'.threads =
      { c.threads with
        states := c.threads.states.push
          { number := c.threads.numbers c.threads.states.size
            name := origin.getD unknownThreadName
            info := origin.map fun _ => c.threads.infos.size }
        infos })
    (hlinks : c'.links = c.links ++
      (origin.map fun _ => (⟨c.threads.states.size⟩, c.threads.infos.size)).toList)
    (hsound : c.threads.Sound → c'.threads.Sound) : Moved t step c c' := by
  have hstate : ∀ u, c'.threads.state u =
      if u.index = c.threads.states.size then
        { number := c.threads.numbers c.threads.states.size
          name := origin.getD unknownThreadName
          info := origin.map fun _ => c.threads.infos.size }
      else c.threads.state u := by
    intro u
    rw [hthreads]
    exact c.threads.states.get_push _ u.index
  refine ⟨hruns, by rw [hthreads], ?_, fun u hu => ?_, fun other hother => ?_, ?_, hsound⟩
  · rw [hthreads, Store.size_push, horigin]
    rfl
  · rw [hstate, if_neg (by omega), hact, ite_self]
  · cases horigin.symm.trans hother
    rw [hstate, if_pos rfl]
  · rw [hlinks, hstate, if_pos rfl, Option.map_map]
    rfl

/-- A thread that starts another by a name that the system takes gets a handle for it. -/
theorem perform_spawn (hruns : c.Runs t) {name : String}
    (hvalid : Threads.isValidName (Threads.startName name)) :
    c.perform t (.spawn name) =
      some
        { app := { c.app with threads := (c.threads.start (Threads.startName name)).2 }
          handles := c.handles ++ [(c.threads.start (Threads.startName name)).1] } := by
  rw [perform, if_pos hruns]
  dsimp only
  rw [Application.spawn, if_pos hvalid]
  rfl

theorem moved_spawn (hruns : c.Runs t) {name : String}
    (hvalid : Threads.isValidName (Threads.startName name))
    (h : c.perform t (.spawn name) = some c') : Moved t (.spawn name) c c' := by
  have hsound (hsound : c.threads.Sound) := hsound.start (Threads.startName name)
  rw [perform_spawn hruns hvalid] at h
  rw [Threads.start_eq] at h hsound
  cases h
  exact .of_push hruns (fun _ => rfl) (if_pos hvalid) rfl List.map_append hsound

theorem runs_of_perform (h : c.perform t step = some c') : c.Runs t := by
  unfold perform at h
  split at h
  · assumption
  · cases h

theorem moved_perform (h : c.perform t step = some c') : Moved t step c c' := by
  have hruns := runs_of_perform h
  have htaken := h
  unfold perform at h
  rw [if_pos hruns] at h
  cases step with
  | spawn name =>
    dsimp only at h
    by_cases hvalid : Threads.isValidName (Threads.startName name)
    · exact moved_spawn hruns hvalid htaken
    · have horigin : (Step.spawn name).origin? = none := if_neg hvalid
      rw [Application.spawn, if_neg hvalid] at h
      cases h
      exact .of_same hruns horigin (fun _ => rfl) (Application.threads_report ..) rfl
  | make =>
    cases h
    exact .of_push hruns (fun _ => rfl) rfl rfl (List.append_nil _).symm fun hsound => hsound.make
  | rename name =>
    cases h
    exact .of_modify hruns rfl rfl rfl fun hsound => hsound.rename t name
  | setFiber fiber =>
    cases h
    exact .of_modify hruns rfl rfl rfl fun hsound => hsound.modify t fun _ => ⟨rfl, rfl, rfl⟩
  | join position =>
    dsimp only at h
    split at h
    · cases h
    · next handle hhandle =>
      obtain ⟨⟨result, handle', app⟩, hjoin, rfl⟩ := Option.map_eq_some_iff.1 h
      obtain ⟨hthreads, hthread, hinfo⟩ := Application.join_keeps hjoin
      obtain ⟨hlt, rfl⟩ := List.getElem?_eq_some_iff.1 hhandle
      refine .of_same hruns rfl (fun _ => rfl) hthreads ?_
      -- The handle that is put back shows the same identity.
      let link (handle : ThreadHandle) := (handle.thread, handle.info)
      have hsame : link handle' = link c.handles[position] := Prod.ext hthread hinfo
      show (c.handles.set position handle').map link = c.handles.map link
      rw [List.map_set, hsame, ← List.getElem_map link, List.set_getElem_self]
      rwa [List.length_map]
  | finish panic =>
    cases h
    exact .of_modify hruns rfl rfl rfl fun hsound => hsound.modify t fun _ => ⟨rfl, rfl, rfl⟩

/-! ## What threads have set -/

/-- The name that a step sets. -/
def Step.name? : Step → Option String
  | .rename name => some name
  | _ => none

/-- The fiber number that a step sets. -/
def Step.fiber? : Step → Option Nat
  | .setFiber fiber => some fiber
  | _ => none

@[simp] theorem Step.name_act (step : Step) (state : ThreadState) :
    (step.act state).name = step.name?.getD state.name := by
  cases step <;> rfl

@[simp] theorem Step.fiber_act (step : Step) (state : ThreadState) :
    (step.act state).fiber = step.fiber?.getD state.fiber := by
  cases step <;> rfl

@[simp] theorem Step.number_act (step : Step) (state : ThreadState) :
    (step.act state).number = state.number := by
  cases step <;> rfl

@[simp] theorem Step.info_act (step : Step) (state : ThreadState) :
    (step.act state).info = state.info := by
  cases step <;> rfl

/-- The last that a thread has set by its steps. -/
def lastSet {α : Type} (set? : Step → Option α) (t : ThreadId) (steps : List (ThreadId × Step)) :
    Option α :=
  steps.reverse.findSome? fun entry => if entry.1 = t then set? entry.2 else none

/-- The threads of a run in the order in which they are made, the main thread first: each with the
name by which it is started, or with none if it is started past the library. -/
def origins (steps : List (ThreadId × Step)) : List (Option String) :=
  none :: steps.filterMap (·.2.origin?)

theorem lastSet_concat {α : Type} (set? : Step → Option α) (t u : ThreadId)
    (steps : List (ThreadId × Step)) (step : Step) :
    lastSet set? u (steps ++ [(t, step)]) =
      if t = u then (set? step).or (lastSet set? u steps) else lastSet set? u steps := by
  rw [lastSet, List.reverse_append]
  show List.findSome? _ ((t, step) :: steps.reverse) = _
  rw [List.findSome?_cons]
  dsimp only
  by_cases h : t = u
  · rw [if_pos h, if_pos h]
    cases set? step <;> rfl
  · rw [if_neg h, if_neg h]
    rfl

/-- A thread that has taken no step has set nothing. -/
theorem lastSet_eq_none {α : Type} (set? : Step → Option α) {u : ThreadId}
    {steps : List (ThreadId × Step)} (h : ∀ entry ∈ steps, entry.1 ≠ u) :
    lastSet set? u steps = none := by
  rw [lastSet, List.findSome?_eq_none_iff]
  exact fun entry hentry => if_neg (h entry (List.mem_reverse.1 hentry))

theorem origins_concat (t : ThreadId) (steps : List (ThreadId × Step)) (step : Step) :
    origins (steps ++ [(t, step)]) = origins steps ++ step.origin?.toList := by
  rw [origins, List.filterMap_append, origins, List.cons_append]
  cases h : step.origin? <;> simp [h]

/-! ## Runs -/

/-- The state of a thread is what the steps of the thread itself have made of the one that it started
with. -/
structure Follows (numbers : Nat → Nat) (origin : Option String) (u : ThreadId)
    (steps : List (ThreadId × Step)) (state : ThreadState) : Prop where
  number : state.number = numbers u.index
  name : state.name = (lastSet Step.name? u steps).getD (origin.getD unknownThreadName)
  fiber : state.fiber = (lastSet Step.fiber? u steps).getD 0
  info : state.info.isSome = origin.isSome

theorem Follows.concat {numbers : Nat → Nat} {origin : Option String} {u : ThreadId}
    {steps : List (ThreadId × Step)} {state : ThreadState} (h : Follows numbers origin u steps state)
    (t : ThreadId) (step : Step) :
    Follows numbers origin u (steps ++ [(t, step)]) (if u = t then step.act state else state) := by
  by_cases heq : u = t
  · subst heq
    rw [if_pos rfl]
    refine ⟨?_, ?_, ?_, ?_⟩
    · rw [Step.number_act, h.number]
    · rw [lastSet_concat, if_pos rfl, Step.name_act, h.name, Option.getD_or]
    · rw [lastSet_concat, if_pos rfl, Step.fiber_act, h.fiber, Option.getD_or]
    · rw [Step.info_act, h.info]
  · rw [if_neg heq]
    refine ⟨h.number, ?_, ?_, h.info⟩
    · rw [lastSet_concat, if_neg (Ne.symm heq), h.name]
    · rw [lastSet_concat, if_neg (Ne.symm heq), h.fiber]

/-- A thread that has taken no step is as it started. -/
theorem Follows.of_no_step {numbers : Nat → Nat} {origin : Option String} {u : ThreadId}
    {steps : List (ThreadId × Step)} {state : ThreadState} (hsteps : ∀ entry ∈ steps, entry.1 ≠ u)
    (hnumber : state.number = numbers u.index)
    (hname : state.name = origin.getD unknownThreadName) (hfiber : state.fiber = 0)
    (hinfo : state.info.isSome = origin.isSome) : Follows numbers origin u steps state where
  number := hnumber
  name := by rw [lastSet_eq_none _ hsteps, hname, Option.getD_none]
  fiber := by rw [lastSet_eq_none _ hsteps, hfiber, Option.getD_none]
  info := hinfo

/-- What steps have made of the main thread alone. -/
structure Traced (numbers : Nat → Nat) (steps : List (ThreadId × Step)) (c : Crew) : Prop where
  sound : c.threads.Sound
  numbers : c.threads.numbers = numbers
  size : c.threads.states.size = (origins steps).length
  takers : ∀ entry ∈ steps, entry.1.index < c.threads.states.size
  follows : ∀ u origin, (origins steps)[u.index]? = some origin →
    Follows c.threads.numbers origin u steps (c.threads.state u)
  links : ∀ u info, (u, info) ∈ c.links ↔ (c.threads.state u).info = some info

theorem traced_alone {app : Application} {numbers : Nat → Nat} (h : app.threads = .alone numbers) :
    Traced numbers [] { app } := by
  have hthreads : ({ app } : Crew).threads = .alone numbers := h
  have hinfo := Threads.info_alone numbers
  refine ⟨?_, ?_, ?_, fun entry hentry => ?_, fun u origin hu => ?_, fun u info => ?_⟩
  · rw [hthreads]
    exact Threads.sound_alone numbers
  · rw [hthreads]
    rfl
  · rw [hthreads]
    rfl
  · cases hentry
  · rw [hthreads]
    obtain ⟨_ | index⟩ := u
    · cases hu
      exact ⟨rfl, rfl, rfl, rfl⟩
    · cases hu
  · rw [hthreads, hinfo]
    constructor
    · rintro ⟨⟩
    · rintro ⟨⟩

section

variable {numbers : Nat → Nat} {steps : List (ThreadId × Step)} {c c' : Crew} {t : ThreadId}
  {step : Step}

theorem Traced.takers_concat (h : Traced numbers steps c) (hmoved : Moved t step c c') :
    ∀ entry ∈ steps ++ [(t, step)], entry.1.index < c.threads.states.size := by
  intro entry hentry
  rcases List.mem_append.1 hentry with hold | hnew
  · exact h.takers entry hold
  · rw [List.mem_singleton.1 hnew]
    exact hmoved.runs.1

/-- A thread that a step has started is as it started: no step before was its own. -/
theorem Traced.follows_new (h : Traced numbers steps c) (hmoved : Moved t step c c')
    {origin : Option String} (horigin : step.origin? = some origin) :
    Follows c.threads.numbers origin ⟨c.threads.states.size⟩ (steps ++ [(t, step)])
      (c'.threads.state ⟨c.threads.states.size⟩) := by
  have hno : ∀ entry ∈ steps ++ [(t, step)], entry.1 ≠ ⟨c.threads.states.size⟩ := by
    intro entry hentry heq
    have hlt := h.takers_concat hmoved entry hentry
    rw [heq] at hlt
    exact Nat.lt_irrefl _ hlt
  refine .of_no_step hno ?_ ?_ ?_ ?_
  all_goals rw [hmoved.new origin horigin]
  cases origin <;> rfl

/-- The handles are for the identities of the threads that have some, before a step and after. -/
theorem Traced.links_concat (h : Traced numbers steps c) (hmoved : Moved t step c c')
    (u : ThreadId) (info : Nat) :
    (u, info) ∈ c'.links ↔ (c'.threads.state u).info = some info := by
  rw [hmoved.links, List.mem_append, h.links]
  by_cases hnew : u = ⟨c.threads.states.size⟩
  · -- Before the step there was no such thread.
    have hnone : (c.threads.state u).info = none :=
      Threads.info_of_size_le (Nat.le_of_eq (congrArg ThreadId.index hnew).symm)
    rw [hnone]
    subst hnew
    cases (c'.threads.state ⟨c.threads.states.size⟩).info with
    | none => simp
    | some own => simp [eq_comm]
  · have hkept : (c'.threads.state u).info = (c.threads.state u).info := by
      by_cases hlt : u.index < c.threads.states.size
      · rw [hmoved.old u hlt]
        split
        · exact step.info_act _
        · rfl
      · have hne : u.index ≠ c.threads.states.size := fun heq => hnew (ThreadId.ext heq)
        have hsize := hmoved.size
        have hlength : step.origin?.toList.length ≤ 1 := by cases step.origin? <;> simp
        rw [Threads.info_of_size_le (by omega), Threads.info_of_size_le (by omega)]
    have hother : (u, info) ∉ ((c'.threads.state ⟨c.threads.states.size⟩).info.map
        fun info => ((⟨c.threads.states.size⟩ : ThreadId), info)).toList := by
      cases (c'.threads.state ⟨c.threads.states.size⟩).info <;> simp [hnew]
    rw [hkept, or_iff_left hother]

/-- One more step keeps what is known of the threads of a run. -/
theorem Traced.concat (h : Traced numbers steps c) (hmoved : Moved t step c c') :
    Traced numbers (steps ++ [(t, step)]) c' := by
  have hsize := hmoved.size
  refine ⟨hmoved.sound h.sound, hmoved.numbers.trans h.numbers, ?_, fun entry hentry => ?_,
    fun u origin hu => ?_, h.links_concat hmoved⟩
  · rw [hsize, origins_concat, List.length_append, h.size]
  · have hlt := h.takers_concat hmoved entry hentry
    omega
  · rw [hmoved.numbers]
    rw [origins_concat, List.getElem?_append, ← h.size] at hu
    split at hu
    · next hold =>
      rw [hmoved.old u hold]
      exact (h.follows u origin hu).concat t step
    · next hnew =>
      cases horigin : step.origin? with
      | none =>
        rw [horigin] at hu
        cases hu
      | some other =>
        rw [horigin, Option.toList_some, List.getElem?_singleton] at hu
        split at hu
        · next hzero =>
          cases hu
          have hindex : u = ⟨c.threads.states.size⟩ := ThreadId.ext (by dsimp only; omega)
          subst hindex
          exact h.follows_new hmoved horigin
        · cases hu

theorem traced_run {app : Application} (hthreads : app.threads = .alone numbers)
    {steps : List (ThreadId × Step)} {c : Crew} (hrun : ({ app } : Crew).run steps = some c) :
    Traced numbers steps c := by
  induction steps using List.reverseRecOn generalizing c with
  | nil =>
    cases hrun
    exact traced_alone hthreads
  | append_singleton before entry ih =>
    obtain ⟨mid, hbefore, hstep⟩ := run_concat.1 hrun
    exact (ih hbefore).concat (moved_perform hstep)

/-- Who the threads of a run are. A thread that was started by name has an identity, and every handle
of it shows that identity. Its name is the one of the identity, and the last that the thread itself
has set, or else the one that it was started by. A thread that was started past the library has no
identity, and a name only if it has set one. Numbers are the ones that the system gives, and fiber
numbers are 0 until the thread sets one. -/
structure Coherent (numbers : Nat → Nat) (steps : List (ThreadId × Step)) (c : Crew) : Prop where
  size : c.threads.states.size = (origins steps).length
  named : ∀ u start, (origins steps)[u.index]? = some (some start) →
    ∃ info : ThreadInfo, c.threads.this u = some info ∧
      info.name = (c.threads.state u).name ∧
      info.name = (lastSet Step.name? u steps).getD start ∧
      info.number = (c.threads.state u).number ∧
      (∃ handle ∈ c.handles, handle.thread = u) ∧
      ∀ handle ∈ c.handles, handle.thread = u → c.threads.infoOf handle = info
  unnamed : ∀ u, (origins steps)[u.index]? = some none →
    c.threads.this u = none ∧ (∀ handle ∈ c.handles, handle.thread ≠ u) ∧
      (c.threads.state u).name = (lastSet Step.name? u steps).getD unknownThreadName
  number : ∀ u, u.index < c.threads.states.size → (c.threads.state u).number = numbers u.index
  fiber : ∀ u, u.index < c.threads.states.size →
    (c.threads.state u).fiber = (lastSet Step.fiber? u steps).getD 0

theorem Traced.coherent (h : Traced numbers steps c) : Coherent numbers steps c := by
  have horigin : ∀ u : ThreadId, u.index < c.threads.states.size →
      ∃ origin, (origins steps)[u.index]? = some origin := by
    intro u hu
    rw [h.size] at hu
    exact ⟨_, List.getElem?_eq_getElem hu⟩
  have hlink : ∀ handle ∈ c.handles,
      (c.threads.state handle.thread).info = some handle.info := by
    intro handle hhandle
    exact (h.links _ _).1 (List.mem_map.2 ⟨handle, hhandle, rfl⟩)
  refine ⟨h.size, fun u start hu => ?_, fun u hu => ?_, fun u hu => ?_, fun u hu => ?_⟩
  · have hfollows := h.follows u (some start) hu
    obtain ⟨info, hinfo⟩ := Option.isSome_iff_exists.1 hfollows.info
    refine ⟨_, by rw [h.sound.this, hinfo, Option.map_some], rfl, hfollows.name, rfl, ?_, ?_⟩
    · obtain ⟨handle, hhandle, heq⟩ := List.mem_map.1 ((h.links u info).2 hinfo)
      exact ⟨handle, hhandle, congrArg Prod.fst heq⟩
    · rintro handle hhandle rfl
      exact (h.sound.published _ _ (hlink handle hhandle)).2
  · have hfollows := h.follows u none hu
    have hnone : (c.threads.state u).info = none :=
      Option.isNone_iff_eq_none.1 (Option.isSome_eq_false_iff.1 hfollows.info)
    refine ⟨by rw [h.sound.this, hnone, Option.map_none], ?_, hfollows.name⟩
    rintro handle hhandle rfl
    rw [hlink handle hhandle] at hnone
    cases hnone
  · obtain ⟨origin, horigin⟩ := horigin u hu
    rw [(h.follows u origin horigin).number, h.numbers]
  · obtain ⟨origin, horigin⟩ := horigin u hu
    exact (h.follows u origin horigin).fiber

/-- A step of one thread leaves the others as they are, with their identities and what handles show
of these. -/
theorem Traced.others_perform (h : Traced numbers steps c) (hmoved : Moved t step c c')
    {u : ThreadId} (hu : u.index < c.threads.states.size) (hne : u ≠ t) :
    c'.threads.state u = c.threads.state u ∧ c'.threads.this u = c.threads.this u ∧
      ∀ handle ∈ c.handles, handle.thread = u →
        c'.threads.infoOf handle = c.threads.infoOf handle := by
  have hsound := hmoved.sound h.sound
  have hstate : c'.threads.state u = c.threads.state u := by rw [hmoved.old u hu, if_neg hne]
  refine ⟨hstate, by rw [hsound.this, h.sound.this, hstate], ?_⟩
  rintro handle hhandle rfl
  have hinfo : (c.threads.state handle.thread).info = some handle.info :=
    (h.links _ _).1 (List.mem_map.2 ⟨handle, hhandle, rfl⟩)
  have hbefore := (h.sound.published _ _ hinfo).2
  have hafter := (hsound.published handle.thread handle.info (by rw [hstate, hinfo])).2
  rw [Threads.infoOf, Threads.infoOf, hafter, hbefore, hstate]

/-- Threads know who they are, and are not disturbed by others. After any steps of threads in any
order, started from the main thread alone, names, identities, handles and fiber numbers agree, each
as the thread itself has left it, and no number is zero. A further step of one thread changes nothing
of any other. A thread that is started by name has its identity with its number at once, under the
name that it was given, and gets neither name nor fiber number from the thread that starts it. -/
theorem identities_run (app : Application) (numbers : Nat → Nat) (hnumbers : ∀ n, numbers n ≠ 0)
    (hthreads : app.threads = .alone numbers) (steps : List (ThreadId × Step)) (c : Crew)
    (hrun : ({ app } : Crew).run steps = some c) :
    Coherent numbers steps c ∧
    (∀ u, u.index < c.threads.states.size → (c.threads.state u).number ≠ 0) ∧
    (∀ t step c', c.perform t step = some c' → ∀ u, u.index < c.threads.states.size → u ≠ t →
      c'.threads.state u = c.threads.state u ∧ c'.threads.this u = c.threads.this u ∧
        ∀ handle ∈ c.handles, handle.thread = u →
          c'.threads.infoOf handle = c.threads.infoOf handle) ∧
    ∀ t name c', '\x00' ∉ name.toList → c.perform t (.spawn name) = some c' →
      ∃ handle, c'.handles = c.handles ++ [handle] ∧
        handle.thread = ⟨c.threads.states.size⟩ ∧
        c'.threads.this handle.thread =
          some { name := Threads.startName name, number := numbers c.threads.states.size } ∧
        (c'.threads.state handle.thread).name = Threads.startName name ∧
        (c'.threads.state handle.thread).fiber = 0 := by
  have htraced := traced_run hthreads hrun
  have hcoherent := htraced.coherent
  refine ⟨hcoherent, fun u hu => ?_, fun t step c' hstep u hu hne => ?_,
    fun t name c' hname hstep => ?_⟩
  · rw [hcoherent.number u hu]
    exact hnumbers u.index
  · exact htraced.others_perform (moved_perform hstep) hu hne
  · have hvalid := Threads.isValidName_startName hname
    have hmoved := moved_perform hstep
    have hnew := hmoved.new _ (if_pos hvalid)
    rw [htraced.numbers] at hnew
    rw [perform_spawn hmoved.runs hvalid] at hstep
    refine ⟨(c.threads.start (Threads.startName name)).1, ?_, by rw [Threads.start_eq], ?_, ?_, ?_⟩
    · cases hstep
      rfl
    all_goals rw [Threads.start_eq]; dsimp only
    · rw [(hmoved.sound htraced.sound).this, hnew]
      rfl
    · rw [hnew]
      rfl
    · rw [hnew]

/-- A thread renames itself, starts another without giving a name, and is joined; the main thread
starts one past the library. -/
theorem identities_run_of_nested :
    let app : Application :=
      { facility := {}, registry := { root := ⟨0⟩ }, threads := .alone (· + 40) }
    let steps : List (ThreadId × Step) :=
      [(⟨0⟩, .spawn "a"), (⟨1⟩, .rename "b"), (⟨1⟩, .setFiber 3), (⟨1⟩, .spawn ""),
        (⟨2⟩, .setFiber 7), (⟨0⟩, .make), (⟨3⟩, .rename "free"), (⟨1⟩, .finish none),
        (⟨0⟩, .join 0)]
    ∃ c, ({ app } : Crew).run steps = some c ∧
      (c.threads.state ⟨1⟩).name = "b" ∧ (c.threads.state ⟨2⟩).name = unknownThreadName ∧
      (c.threads.state ⟨2⟩).fiber = 7 ∧ c.threads.this ⟨3⟩ = none ∧
      (c.threads.state ⟨3⟩).name = "free" := by
  intro app steps
  have hsome : (({ app } : Crew).run steps).isSome = true := by decide +kernel
  obtain ⟨c, hrun⟩ := Option.isSome_iff_exists.1 hsome
  obtain ⟨hcoherent, -⟩ := identities_run app (· + 40) (fun n => by omega) rfl steps c hrun
  obtain ⟨first, -, hfirst, hfirstName, -⟩ := hcoherent.named ⟨1⟩ "a" rfl
  obtain ⟨second, -, hsecond, hsecondName, -⟩ := hcoherent.named ⟨2⟩ unknownThreadName rfl
  obtain ⟨hthis, -, hname⟩ := hcoherent.unnamed ⟨3⟩ rfl
  have hsize : c.threads.states.size = 4 := hcoherent.size
  refine ⟨c, hrun, ?_, ?_, ?_, hthis, hname⟩
  · rw [← hfirst, hfirstName]
    rfl
  · rw [← hsecond, hsecondName]
    rfl
  · exact hcoherent.fiber ⟨2⟩ (by rw [hsize]; decide)

end

end Crew

end EventLog
