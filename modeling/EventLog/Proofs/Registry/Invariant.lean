import EventLog.Application.Call
import EventLog.Proofs.Facility.Naming
import EventLog.Proofs.Names
import EventLog.Proofs.Registry.Apply

/-!
# The registry stays consistent

The root logger is always named `root`, nothing is registered under that name, and every other logger
is registered under its own (`Registry.WellFormed`). Every call keeps this, and so does every run. It
follows that a name is listed exactly when it does not mean the root logger, and that the names rise
strictly (`Registry.Consistent`).

Registering a logger and taking out a name give back the logger that had the name, so no logger that
was passed in is lost (`members_run_perm`).
-/

namespace EventLog

open Facility Config

namespace Registry

/-- What all calls keep true of a registry. -/
structure WellFormed (r : Registry) (s : Facility) : Prop where
  rootIsThere : r.root.index < s.loggers.size
  rootName : (s.logger r.root).name = EventLog.rootName
  rising : r.entries.Rising
  entry : ∀ name l, r.entries.find? name = some l →
    name ≠ EventLog.rootName ∧ l.index < s.loggers.size ∧ (s.logger l).name = name

/-- The logger that a name is bound to, the root logger included. -/
def bound (r : Registry) (name : String) : Option LoggerId :=
  if name = rootName ∨ r.contains name = true then some (r.get name) else none

/-- The root logger and all that are registered, each as often as it is. -/
def members (r : Registry) : List LoggerId := r.root :: r.entries.values

/-! ## What single calls keep -/

namespace WellFormed

variable {r : Registry} {s t : Facility}

theorem of_keepsNames (h : r.WellFormed s) (hst : KeepsNames s t) : r.WellFormed t where
  rootIsThere := Nat.lt_of_lt_of_le h.rootIsThere hst.size
  rootName := (hst.name r.root h.rootIsThere).trans h.rootName
  rising := h.rising
  entry name l hl := by
    obtain ⟨hne, hthere, hname⟩ := h.entry name l hl
    exact ⟨hne, Nat.lt_of_lt_of_le hthere hst.size, (hst.name l hthere).trans hname⟩

theorem add (h : r.WellFormed s) {l : LoggerId} (hl : l.index < s.loggers.size) :
    (r.add l s).2.WellFormed s := by
  rw [Registry.add]
  by_cases hname : (s.logger l).name = EventLog.rootName
  · rw [if_pos hname]
    exact ⟨hl, hname, h.rising, h.entry⟩
  · rw [if_neg hname]
    refine ⟨h.rootIsThere, h.rootName, h.rising.insert _ l, fun name k hk => ?_⟩
    rw [Names.find?_insert] at hk
    split at hk
    · next heq =>
      cases hk
      rw [heq]
      exact ⟨hname, hl, rfl⟩
    · exact h.entry name k hk

theorem remove (h : r.WellFormed s) (name : String) : (r.remove name).2.WellFormed s := by
  rw [Registry.remove]
  by_cases hname : name = EventLog.rootName
  · rw [if_pos hname]
    exact h
  · rw [if_neg hname]
    refine ⟨h.rootIsThere, h.rootName, h.rising.erase name, fun other k hk => ?_⟩
    rw [Names.find?_erase] at hk
    split at hk
    · cases hk
    · exact h.entry other k hk

end WellFormed

theorem keepsNames_adopt (target source : LoggerId) (s : Facility) :
    KeepsNames s (adopt target source s) := by
  have hlevel : KeepsNames s (s.setLevel target (s.logger source).level) :=
    .modifyLogger s target fun _ => rfl
  have hlayout := hlevel.trans (.setLayout _ target (s.logger source).layout)
  have hclear : KeepsNames s (((s.setLevel target (s.logger source).level).setLayout target
      (s.logger source).layout).clearAppenders target) :=
    hlayout.trans (.modifyLogger _ target fun _ => rfl)
  exact hclear.trans (.addAppenders target _ _)

/-- Taking in a logger that is there keeps all names and the registry as it should be. -/
theorem WellFormed.enroll {r : Registry} {s : Facility} (h : r.WellFormed s) {l : LoggerId}
    (hl : l.index < s.loggers.size) :
    KeepsNames s (r.enroll l s).1 ∧ (r.enroll l s).2.WellFormed (r.enroll l s).1 := by
  rw [Registry.enroll]
  split
  · exact ⟨keepsNames_adopt r.root l s, h.of_keepsNames (keepsNames_adopt r.root l s)⟩
  · exact ⟨.refl s, h.add hl⟩

theorem WellFormed.enrollAll {built : List LoggerId} {r : Registry} {s : Facility}
    (h : r.WellFormed s) (hbuilt : ∀ l ∈ built, l.index < s.loggers.size) :
    KeepsNames s (r.enrollAll built s).1 ∧
      (r.enrollAll built s).2.WellFormed (r.enrollAll built s).1 := by
  induction built generalizing r s with
  | nil => exact ⟨.refl s, h⟩
  | cons l rest ih =>
    rw [List.forall_mem_cons] at hbuilt
    obtain ⟨hnames, hone⟩ := h.enroll hbuilt.1
    obtain ⟨hmore, hall⟩ := ih hone fun k hk => Nat.lt_of_lt_of_le (hbuilt.2 k hk) hnames.size
    rw [enrollAll_cons]
    exact ⟨hnames.trans hmore, hall⟩

theorem keepsNames_of_extends {s t : Facility} (h : Extends s t) : KeepsNames s t :=
  ⟨h.loggersSize, fun l hl => by rw [h.logger l hl]⟩

/-- Applying configurations keeps the registry as it should be, whether it succeeds or not. -/
theorem WellFormed.apply {r : Registry} {s : Facility} (h : r.WellFormed s)
    (configs : List LoggerConfig) :
    (r.apply configs s).2.2.WellFormed (r.apply configs s).2.1 := by
  obtain ⟨hextends, hcase⟩ := buildLoggers_cases configs s
  rw [Registry.apply]
  generalize s.buildLoggers configs = result at hextends hcase ⊢
  obtain ⟨outcome, t⟩ := result
  have hbuilt : r.WellFormed t := h.of_keepsNames (keepsNames_of_extends hextends)
  rcases hcase with ⟨built, hok, hall⟩ | ⟨_, _, _, error, -, -, -, herror⟩
  · cases hok
    refine (hbuilt.enrollAll fun l hl => ?_).2
    obtain ⟨attempt, -, hgave⟩ := exists_left_of_mem hall hl
    exact hgave.isThere
  · cases herror
    exact hbuilt

theorem wellFormed_new (s : Facility) : (Registry.new s).1.WellFormed (Registry.new s).2 := by
  have hconsole : KeepsNames (s.newLogger EventLog.rootName).2
      ((s.newLogger EventLog.rootName).2.newAppender (.console {})).2 :=
    .of_loggers rfl
  have hkeeps : KeepsNames (s.newLogger EventLog.rootName).2 (Registry.new s).2 :=
    hconsole.trans (.addAppender ⟨s.loggers.size⟩ ⟨s.appenders.size⟩ _)
  have hthere : s.loggers.size < (s.newLogger EventLog.rootName).2.loggers.size := by
    show s.loggers.size < (s.loggers.push _).size
    rw [Store.size_push]
    omega
  have hroot : WellFormed { root := ⟨s.loggers.size⟩ } (s.newLogger EventLog.rootName).2 := by
    refine ⟨hthere, ?_, Names.rising_nil, fun name l hl => nomatch hl⟩
    rw [logger_newLogger, if_pos rfl]
  exact hroot.of_keepsNames hkeeps

/-! ## What is consistent about a registry -/

/-- What a registry shows to whoever uses it. -/
structure Consistent (r : Registry) (s : Facility) : Prop where
  rootName : (s.logger r.root).name = EventLog.rootName
  entry : ∀ name l, (name, l) ∈ r.entries →
    name ≠ EventLog.rootName ∧ (s.logger l).name = name
  /-- Every name means a logger. -/
  isThere : ∀ name, (r.get name).index < s.loggers.size
  contains : ∀ name, r.contains name = true ↔ r.get name ≠ r.root
  name : ∀ name, r.contains name = true → (s.logger (r.get name)).name = name
  rising : r.names.Pairwise (· < ·)
  mem_names : ∀ name, name ∈ r.names ↔ r.contains name = true
  remove_root : r.remove EventLog.rootName = (none, r)

section

variable {r : Registry} {s : Facility}

theorem mem_names_iff (h : r.WellFormed s) (name : String) :
    name ∈ r.names ↔ r.contains name = true := by
  by_cases hroot : name = rootName
  · have hnot : (r.entries.find? name).isSome ≠ true := by
      intro hsome
      obtain ⟨l, hl⟩ := Option.isSome_iff_exists.1 hsome
      exact (h.entry name l hl).1 hroot
    rw [names, ← Names.isSome_find?]
    simp [contains, hroot, hroot ▸ hnot]
  · rw [contains_of_ne hroot, Names.isSome_find?, names]

/-- The loggers of other names than that of the root are other loggers, since they are named
otherwise. -/
theorem WellFormed.consistent (h : r.WellFormed s) : r.Consistent s := by
  have hfound : ∀ name l, r.entries.find? name = some l → r.get name = l ∧ l ≠ r.root := by
    intro name l hl
    obtain ⟨hne, hthere, hname⟩ := h.entry name l hl
    refine ⟨by rw [get_of_ne hne, hl, Option.getD_some], ?_⟩
    rintro rfl
    exact hne (hname.symm.trans h.rootName)
  have hcontained : ∀ name, r.contains name = true → ∃ l, r.entries.find? name = some l := by
    intro name hcontains
    rw [← mem_names_iff h, names, ← Names.isSome_find?] at hcontains
    exact Option.isSome_iff_exists.1 hcontains
  refine ⟨h.rootName, ?_, ?_, ?_, ?_, h.rising, mem_names_iff h, rfl⟩
  · intro name l hmem
    obtain ⟨hne, -, hname⟩ := h.entry name l ((Names.mem_iff_find? h.rising name l).1 hmem)
    exact ⟨hne, hname⟩
  · intro name
    cases hc : r.contains name with
    | false =>
      rw [get_of_not_contains hc]
      exact h.rootIsThere
    | true =>
      obtain ⟨l, hl⟩ := hcontained name hc
      rw [(hfound name l hl).1]
      exact (h.entry name l hl).2.1
  · intro name
    cases hc : r.contains name with
    | false => simp [get_of_not_contains hc]
    | true =>
      obtain ⟨l, hl⟩ := hcontained name hc
      obtain ⟨hget, hne⟩ := hfound name l hl
      simp [hget, hne]
  · intro name hc
    obtain ⟨l, hl⟩ := hcontained name hc
    rw [(hfound name l hl).1]
    exact (h.entry name l hl).2.2

/-! ## What calls give back -/

theorem bound_of_ne {name : String} (h : name ≠ rootName) :
    r.bound name = r.entries.find? name := by
  rw [bound, contains_of_ne h, get_of_ne h]
  cases r.entries.find? name <;> simp [h]

theorem bound_root : r.bound rootName = some r.root := by
  rw [bound, if_pos (.inl rfl), get, if_pos rfl]

/-- Registering a logger gives back the one that its name was bound to. -/
theorem add_fst (r : Registry) (l : LoggerId) (s : Facility) :
    (r.add l s).1 = r.bound (s.logger l).name := by
  rw [add]
  by_cases h : (s.logger l).name = rootName
  · rw [if_pos h, h, bound_root]
  · rw [if_neg h, bound_of_ne h]

/-- Taking out a name gives back the logger that it was bound to, but the root logger stays. -/
theorem remove_fst (r : Registry) (name : String) :
    (r.remove name).1 = if name = rootName then none else r.bound name := by
  rw [remove]
  by_cases h : name = rootName
  · rw [if_pos h, if_pos h]
  · rw [if_neg h, if_neg h, bound_of_ne h]

/-- Nothing is lost when a logger is registered: it is there, and the one that had the name is given
back. -/
theorem members_add_perm (h : r.entries.Rising) (l : LoggerId) (s : Facility) :
    ((r.add l s).2.members ++ (r.add l s).1.toList).Perm (l :: r.members) := by
  rw [add]
  by_cases hname : (s.logger l).name = rootName
  · have hmoved : (r.entries.values ++ [r.root]).Perm (r.root :: r.entries.values) :=
      List.perm_append_comm
    rw [if_pos hname]
    exact hmoved.cons l
  · have hvalues := Names.values_insert_perm h (s.logger l).name l
    rw [if_neg hname]
    exact (hvalues.cons r.root).trans (.swap l r.root _)

theorem members_remove_perm (h : r.entries.Rising) (name : String) :
    ((r.remove name).2.members ++ (r.remove name).1.toList).Perm r.members := by
  rw [remove]
  by_cases hname : name = rootName
  · rw [if_pos hname, Option.toList_none, List.append_nil]
  · rw [if_neg hname]
    exact (Names.values_erase_perm h name).cons r.root

end

end Registry

/-! ## Runs -/

/-- The logger that a call passes to the registry. -/
def Call.passed : Call → Option LoggerId
  | register l => some l
  | _ => none

namespace Application

open Registry

/-- A call that the application can make: a logger that it passes is there. -/
def Allows (p : Application) (call : Call) : Prop :=
  ∀ l ∈ call.passed, l.index < p.facility.loggers.size

instance (p : Application) (call : Call) : Decidable (p.Allows call) :=
  inferInstanceAs (Decidable (∀ l ∈ call.passed, l.index < p.facility.loggers.size))

variable {p : Application}

/-- Every call keeps the registry as it should be. -/
theorem wellFormed_perform (h : p.registry.WellFormed p.facility) {call : Call}
    (hallowed : p.Allows call) :
    (p.perform call).registry.WellFormed (p.perform call).facility := by
  cases call with
  | operate operation => exact h.of_keepsNames (.perform p.facility operation)
  | build builder => exact h.of_keepsNames (.build p.facility builder)
  | configure config =>
    exact h.of_keepsNames (keepsNames_of_extends (builtSince_buildLogger config p.facility).1)
  | register l => exact h.add (hallowed l rfl)
  | unregister name => exact h.remove name
  | apply configs => exact h.apply configs
  | elapse threads clock => exact h

theorem wellFormed_run (h : p.registry.WellFormed p.facility) (calls : List Call)
    (hallowed : ∀ entry ∈ p.history calls, entry.1.Allows entry.2) :
    (p.run calls).registry.WellFormed (p.run calls).facility := by
  induction calls generalizing p with
  | nil => exact h
  | cons call rest ih =>
    rw [history, List.forall_mem_cons] at hallowed
    exact ih (wellFormed_perform h hallowed.1) hallowed.2

/-- A call other than applying configurations changes the members by what it passes and gives back. -/
theorem members_perform_perm (h : p.registry.WellFormed p.facility) {call : Call}
    (happly : ∀ configs, call ≠ .apply configs) :
    ((p.perform call).registry.members ++ (p.reply call).toList).Perm
      (call.passed.toList ++ p.registry.members) := by
  cases call with
  | register l => exact members_add_perm h.rising l p.facility
  | unregister name => exact members_remove_perm h.rising name
  | apply configs => exact absurd rfl (happly configs)
  | _ => exact .of_eq (List.append_nil _)

theorem filterMap_cons_toList {α β : Type} (f : α → Option β) (a : α) (rest : List α) :
    (a :: rest).filterMap f = (f a).toList ++ rest.filterMap f := by
  cases h : f a <;> simp [h]

/-- Over runs without configurations the loggers that were passed in, with those that were there, are
those that are there in the end, with those that were given back. -/
theorem members_run_perm (h : p.registry.WellFormed p.facility) (calls : List Call)
    (hallowed : ∀ entry ∈ p.history calls, entry.1.Allows entry.2)
    (happly : ∀ configs, Call.apply configs ∉ calls) :
    ((p.run calls).registry.members ++
        (p.history calls).filterMap fun entry => entry.1.reply entry.2).Perm
      (calls.filterMap Call.passed ++ p.registry.members) := by
  induction calls generalizing p with
  | nil => exact .of_eq (List.append_nil _)
  | cons call rest ih =>
    rw [history, List.forall_mem_cons] at hallowed
    simp only [List.mem_cons, not_or, forall_and] at happly
    obtain ⟨hfirst, hrest⟩ := happly
    have hone := members_perform_perm h fun configs => Ne.symm (hfirst configs)
    have hmore := ih (wellFormed_perform h hallowed.1) hallowed.2 hrest
    rw [history, filterMap_cons_toList, filterMap_cons_toList, run_cons, List.perm_iff_count]
    intro l
    have hcount := hone.count_eq l
    have hcount' := hmore.count_eq l
    simp only [List.count_append] at hcount hcount' ⊢
    omega

/-- Over every run from a new registry the registry is consistent and gives back what a name was
bound to. Over runs without configurations no logger is lost and none is made up: those passed in,
with the first root logger, are those that are there in the end, with those that were given back. -/
theorem consistent_run {s : Facility} (hnew : Registry.new s = (p.registry, p.facility))
    (calls : List Call) (hallowed : ∀ entry ∈ p.history calls, entry.1.Allows entry.2) :
    (p.run calls).registry.Consistent (p.run calls).facility ∧
    (∀ entry ∈ p.history calls,
      (∀ l, entry.2 = .register l →
        entry.1.reply entry.2 = entry.1.registry.bound (entry.1.facility.logger l).name) ∧
      ∀ name, entry.2 = .unregister name →
        entry.1.reply entry.2 =
          if name = rootName then none else entry.1.registry.bound name) ∧
    ((∀ configs, Call.apply configs ∉ calls) →
      ((p.run calls).registry.members ++
          (p.history calls).filterMap fun entry => entry.1.reply entry.2).Perm
        (calls.filterMap Call.passed ++ [p.registry.root])) := by
  have hwell : p.registry.WellFormed p.facility := by
    have hstart := wellFormed_new s
    rw [hnew] at hstart
    exact hstart
  have hmembers : p.registry.members = [p.registry.root] := by
    have hstart : (Registry.new s).1.members = [(Registry.new s).1.root] := rfl
    rw [hnew] at hstart
    exact hstart
  refine ⟨(wellFormed_run hwell calls hallowed).consistent, ?_, fun happly => ?_⟩
  · rintro ⟨q, call⟩ -
    constructor
    · rintro l rfl
      exact add_fst q.registry l q.facility
    · rintro name rfl
      exact remove_fst q.registry name
  · rw [← hmembers]
    exact members_run_perm hwell calls hallowed happly

/-- A second root takes the place of the first, which is given back, and the name `root` is not taken
out; a name that is registered twice gives back the first logger. -/
theorem consistent_run_of_second_root :
    let p : Application := .withConsole 0
    let calls : List Call :=
      [.operate (.newLogger "net"), .register ⟨1⟩, .operate (.newLogger "root"), .register ⟨2⟩,
        .unregister "root", .build { name := "net" }, .register ⟨3⟩, .unregister "db"]
    let q := p.run calls
    (q.registry.Consistent q.facility ∧ q.registry.root = ⟨2⟩ ∧ q.registry.names = ["net"]) ∧
      [⟨2⟩, ⟨3⟩, ⟨0⟩, ⟨1⟩].Perm [⟨1⟩, ⟨2⟩, ⟨3⟩, p.registry.root] := by
  intro p calls q
  have hallowed : ∀ entry ∈ p.history calls, entry.1.Allows entry.2 := by
    decide +kernel
  have hnone : ∀ configs, Call.apply configs ∉ calls := by
    simp [calls]
  obtain ⟨hconsistent, -, hperm⟩ := consistent_run (s := { east := 0 }) rfl calls hallowed
  exact ⟨⟨hconsistent, rfl, rfl⟩, hperm hnone⟩

end Application

end EventLog
