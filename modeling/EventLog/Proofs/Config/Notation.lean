import Mathlib.Data.List.Forall2
import EventLog.Config.Decode
import EventLog.Config.Encode
import EventLog.Proofs.Names

/-!
# The notations of a configuration

A configuration can be written in many ways. A record is a map of its fields, in which those that have
their defaults may be left out and other keys mean nothing; or it is the sequence of its values, cut
off where only defaults follow. Loggers and appenders are written in either way, each by its own
choice. `Record.Writes` says this once, of a list of fields; `AppenderConfig.Writes` and
`LoggerConfig.Writes` are what it comes to for their fields.

All notations of a configuration are read as it, and its written form is one of them
(`decode_of_writes`).
-/

namespace EventLog.Config

/-! ## Records -/

/-- A field of a record that is written down. -/
structure Slot where
  key : String
  /-- The documents that stand for the value. -/
  writes : Document → Prop
  /-- The value is the one that is taken when none is given. -/
  isDefault : Prop

/-- A map has the field, or leaves out its default. -/
structure Slot.StandsIn (slot : Slot) (fields : List (String × Document)) : Prop where
  written : ∀ d, (slot.key, d) ∈ fields → slot.writes d
  leftOut : slot.key ∉ Names.keys fields → slot.isDefault

namespace Record

/-- Values in order stand for fields in order. Where the values end, only defaults follow. -/
inductive Row : List Slot → List Document → Prop
  | cut {slots : List Slot} : (∀ slot ∈ slots, slot.isDefault) → Row slots []
  | value {slot : Slot} {slots : List Slot} {d : Document} {values : List Document} :
      slot.writes d → Row slots values → Row (slot :: slots) (d :: values)

/-- The documents that stand for a record: maps with the fields in any order and with any other keys,
and sequences of the values. -/
inductive Writes (slots : List Slot) : Document → Prop
  | map {fields : List (String × Document)} : (Names.keys fields).Nodup →
      (∀ slot ∈ slots, slot.StandsIn fields) → Writes slots (.map fields)
  | seq {values : List Document} : Row slots values → Writes slots (.seq values)

end Record

/-! ## Configurations -/

/-- A level is its name, or a map from its name to nothing. -/
inductive LevelWritten (level : Level) : Document → Prop
  | name : LevelWritten level (.str level.name)
  | map : LevelWritten level (.map [(level.name, .null)])

/-- A pattern is its text; an absent one is nothing. -/
inductive PatternWritten : Option String → Document → Prop
  | absent : PatternWritten none .null
  | text (pattern : String) : PatternWritten (some pattern) (.str pattern)

/-- The text alone. -/
def TextWritten (text : String) (d : Document) : Prop := d = .str text

/-- The field of a level. -/
def levelSlot (level : Level) : Slot := ⟨"level", LevelWritten level, level = .debug⟩

/-- The field of a pattern. -/
def patternSlot (pattern : Option String) : Slot :=
  ⟨"pattern", PatternWritten pattern, pattern = none⟩

/-- A field with a text that has to be given. -/
def textSlot (key text : String) : Slot := ⟨key, TextWritten text, False⟩

/-- The fields of an appender: its kind, the path of a file, the level and the pattern. -/
def AppenderConfig.slots (a : AppenderConfig) : List Slot :=
  (match a.target with
    | .console => [textSlot "type" "stdout"]
    | .file path => [textSlot "type" "file", textSlot "path" path]) ++
  [levelSlot a.level, patternSlot a.pattern]

/-- A document that stands for an appender. -/
def AppenderConfig.Writes (a : AppenderConfig) : Document → Prop := Record.Writes a.slots

/-- Appenders are written as the sequence of documents that stand for them. -/
inductive AppendersWritten (appenders : List AppenderConfig) : Document → Prop
  | seq {elements : List Document} : List.Forall₂ AppenderConfig.Writes appenders elements →
      AppendersWritten appenders (.seq elements)

/-- The fields of a logger. -/
def LoggerConfig.slots (c : LoggerConfig) : List Slot :=
  [textSlot "name" c.name, levelSlot c.level, patternSlot c.pattern,
    ⟨"appenders", AppendersWritten c.appenders, c.appenders = []⟩]

/-- A document that stands for a logger. -/
def LoggerConfig.Writes (c : LoggerConfig) : Document → Prop := Record.Writes c.slots

/-! ## Reading single values -/

theorem ok_bind {α β : Type} (value : α) (f : α → Decoded β) : (.ok value >>= f) = f value := rfl

theorem decodeText_of_written {text : String} {d : Document} (h : TextWritten text d)
    (expected : String) : decodeText expected d = .ok text := by
  rw [TextWritten] at h
  rw [h, decodeText]

theorem decodePattern_of_written {pattern : Option String} {d : Document}
    (h : PatternWritten pattern d) : decodePattern d = .ok pattern := by
  cases h with
  | absent => rfl
  | text => rfl

theorem decodeLevelName_name (level : Level) : decodeLevelName level.name = .ok level := by
  rw [decodeLevelName, Level.ofName?_name]

theorem decodeLevel_of_written {level : Level} {d : Document} (h : LevelWritten level d)
    (lenient : Bool) : decodeLevel lenient d = .ok level := by
  cases h with
  | name => exact decodeLevelName_name level
  | map =>
    rw [decodeLevel, decodeLevelName_name]
    rfl

/-! ## Reading maps -/

variable {fields : List (String × Document)}

namespace Record

variable {ε δ : Type}

/-- If reading every field of a map succeeds, reading all of them in order does. -/
theorem foldlM_eq_ok {read : δ → String × Document → Except ε δ} {take : δ → String → δ}
    (h : ∀ entry ∈ fields, ∀ draft, read draft entry = .ok (take draft entry.1)) (draft : δ) :
    fields.foldlM read draft = .ok ((Names.keys fields).foldl take draft) := by
  induction fields generalizing draft with
  | nil => rfl
  | cons entry rest ih =>
    rw [List.forall_mem_cons] at h
    rw [List.foldlM_cons, h.1]
    exact ih h.2 _

/-- A part of a draft that a single key is read into has the value of that key, if the map has it. -/
theorem foldl_take_eq {β : Type} (part : δ → β) {take : δ → String → δ} {key : String} {value : β}
    (htake : ∀ draft other, part (take draft other) = if other = key then value else part draft)
    (keys : List String) (draft : δ) :
    part (keys.foldl take draft) = if key ∈ keys then value else part draft := by
  induction keys generalizing draft with
  | nil => simp
  | cons other rest ih =>
    rw [List.foldl_cons, ih, htake]
    by_cases hrest : key ∈ rest
    · simp [hrest]
    · simp [hrest, eq_comm (a := other)]

/-- What is read of a field that a map has or leaves out is its value. -/
theorem foldl_take_of_standsIn {β : Type} (part : δ → β) {take : δ → String → δ} {slot : Slot}
    {value : β} {draft : δ} (h : slot.StandsIn fields)
    (htake : ∀ draft other,
      part (take draft other) = if other = slot.key then value else part draft)
    (hdefault : slot.isDefault → part draft = value) :
    part ((Names.keys fields).foldl take draft) = value := by
  rw [foldl_take_eq part htake]
  split
  · rfl
  · next hnot => exact hdefault (h.leftOut hnot)

end Record

/-- A map that has a text under a key. -/
theorem Slot.StandsIn.find?_text {key text : String}
    (h : (textSlot key text).StandsIn fields) : Names.find? fields key = some (.str text) := by
  have hkey : key ∈ Names.keys fields := by
    by_contra hnot
    exact h.leftOut hnot
  obtain ⟨d, hd⟩ := Option.isSome_iff_exists.1 ((Names.isSome_find? key).2 hkey)
  rw [hd, show d = .str text from h.written d (Names.mem_of_find? hd)]

/-! ## Writing maps -/

namespace Record

/-- Fields of a map in the order of the record: each is given once, or its default is left out. -/
inductive Listed : List Slot → List (String × Document) → Prop
  | nil : Listed [] []
  | given {slot : Slot} {slots : List Slot} {d : Document} {fields : List (String × Document)} :
      slot.writes d → Listed slots fields → Listed (slot :: slots) ((slot.key, d) :: fields)
  | leftOut {slot : Slot} {slots : List Slot} {fields : List (String × Document)} :
      slot.isDefault → Listed slots fields → Listed (slot :: slots) fields

variable {slots : List Slot}

theorem Listed.keys_sublist (h : Listed slots fields) :
    (Names.keys fields).Sublist (slots.map Slot.key) := by
  induction h with
  | nil => exact .refl _
  | given _ _ ih => exact ih.cons_cons _
  | leftOut _ _ ih => exact ih.cons _

/-- Where the fields of a record have different keys, each of them stands among those listed. -/
theorem Listed.standsIn (h : Listed slots fields) (hkeys : (slots.map Slot.key).Nodup) :
    ∀ slot ∈ slots, slot.StandsIn fields := by
  induction h with
  | nil => exact List.forall_mem_nil _
  | @given slot slots d fields hwrites hrest ih =>
    obtain ⟨hnew, hkeys⟩ := List.nodup_cons.1 hkeys
    rw [List.forall_mem_cons]
    -- The keys of the other fields differ from the first, so neither has a say in the other.
    constructor
    · constructor
      · intro other hother
        rcases List.mem_cons.1 hother with heq | hmem
        · cases heq
          exact hwrites
        · exact (hnew (hrest.keys_sublist.subset (List.mem_map_of_mem hmem))).elim
      · exact fun hnot => (hnot List.mem_cons_self).elim
    · intro later hlater
      have hne : later.key ≠ slot.key := fun he => hnew (he ▸ List.mem_map_of_mem hlater)
      obtain ⟨hwritten, hleft⟩ := ih hkeys later hlater
      constructor
      · intro other hother
        rcases List.mem_cons.1 hother with heq | hmem
        · exact (hne (congrArg Prod.fst heq)).elim
        · exact hwritten other hmem
      · exact fun hnot => hleft fun hmem => hnot (List.mem_cons_of_mem _ hmem)
  | @leftOut slot slots fields hdefault hrest ih =>
    obtain ⟨hnew, hkeys⟩ := List.nodup_cons.1 hkeys
    rw [List.forall_mem_cons]
    refine ⟨⟨fun d hd => ?_, fun _ => hdefault⟩, ih hkeys⟩
    exact (hnew (hrest.keys_sublist.subset (List.mem_map_of_mem hd))).elim

/-- The map of fields that list a record stands for it. -/
theorem Listed.writes_ofFields (h : Listed slots fields) (hkeys : (slots.map Slot.key).Nodup) :
    Writes slots (Document.ofFields fields) := by
  have hrising := Names.rising_ofList fields
  have hfields : (Names.keys fields).Nodup := h.keys_sublist.nodup hkeys
  refine .map hrising.nodup fun slot hslot => ?_
  obtain ⟨hwritten, hleft⟩ := h.standsIn hkeys slot hslot
  constructor
  · intro d hd
    rw [Names.mem_iff_find? hrising, Names.find?_ofList hfields] at hd
    exact hwritten d (Names.mem_of_find? hd)
  · intro hnot
    rw [← Names.isSome_find?, Names.find?_ofList hfields, Names.isSome_find?] at hnot
    exact hleft hnot

end Record

/-! ## Reading sequences -/

namespace Record

variable {slot : Slot} {slots : List Slot} {values : List Document}

theorem Row.eq_nil (h : Row [] values) : values = [] := by
  cases h
  rfl

/-- The next value of a row is read, or its default is taken, and the rest is the row of the other
fields. -/
theorem Row.decodeNext {α : Type} {decode : Document → Decoded α} {value default : α}
    (h : Row (slot :: slots) values) (hdecode : ∀ d, slot.writes d → decode d = .ok value)
    (hdefault : slot.isDefault → default = value) :
    ∃ rest, decodeNext decode default values = .ok (value, rest) ∧ Row slots rest := by
  cases h with
  | cut hall =>
    rw [List.forall_mem_cons] at hall
    exact ⟨[], by rw [Config.decodeNext, hdefault hall.1], .cut hall.2⟩
  | @value _ _ d rest hwrites hrest =>
    refine ⟨rest, ?_, hrest⟩
    rw [Config.decodeNext, hdecode d hwrites]
    rfl

/-- A value that has to be given is there. -/
theorem Row.exists_cons {key text : String} (h : Row (textSlot key text :: slots) values) :
    ∃ rest, values = .str text :: rest ∧ Row slots rest := by
  cases h with
  | cut hall => exact (hall _ List.mem_cons_self).elim
  | @value _ _ d rest hwrites hrest =>
    rw [show d = .str text from hwrites]
    exact ⟨rest, rfl, hrest⟩

/-- A level and a pattern are read one after the other. -/
theorem Row.decodeNext_level_pattern {level : Level} {pattern : Option String}
    (h : Row (levelSlot level :: patternSlot pattern :: slots) values) (lenient : Bool) :
    ∃ afterLevel afterPattern,
      Config.decodeNext (decodeLevel lenient) .debug values = .ok (level, afterLevel) ∧
      Config.decodeNext decodePattern none afterLevel = .ok (pattern, afterPattern) ∧
      Row slots afterPattern := by
  obtain ⟨afterLevel, hlevel, hrow⟩ :=
    h.decodeNext (fun _ hd => decodeLevel_of_written hd lenient) Eq.symm
  obtain ⟨afterPattern, hpattern, hrow⟩ :=
    hrow.decodeNext (fun _ hd => decodePattern_of_written hd) Eq.symm
  exact ⟨afterLevel, afterPattern, hlevel, hpattern, hrow⟩

end Record

/-! ## Appenders -/

namespace AppenderConfig

/-- The kind of an appender. -/
def kind (a : AppenderConfig) : Kind :=
  match a.target with
  | .console => .console
  | .file _ => .file

/-- The draft of an appender after the field with a key. -/
def take (a : AppenderConfig) (draft : AppenderDraft) (key : String) : AppenderDraft where
  path := if key = "path" then
      match a.target with
      | .console => draft.path
      | .file path => some path
    else draft.path
  level := if key = "level" then a.level else draft.level
  pattern := if key = "pattern" then a.pattern else draft.pattern

variable {a : AppenderConfig}

theorem levelSlot_mem_slots (a : AppenderConfig) : levelSlot a.level ∈ a.slots :=
  List.mem_append_right _ (by simp)

theorem patternSlot_mem_slots (a : AppenderConfig) : patternSlot a.pattern ∈ a.slots :=
  List.mem_append_right _ (by simp)

/-- Reading a field that is written takes its value into the draft. -/
theorem read_eq_take (h : ∀ slot ∈ a.slots, slot.StandsIn fields)
    (entry : String × Document) (hentry : entry ∈ fields) (draft : AppenderDraft) :
    draft.read a.kind entry = .ok (a.take draft entry.1) := by
  have hlevel := (h _ a.levelSlot_mem_slots).written
  have hpattern := (h _ a.patternSlot_mem_slots).written
  unfold AppenderDraft.read
  split
  · next d =>
    rw [decodeLevel_of_written (hlevel d hentry)]
    rfl
  · next d =>
    rw [decodePattern_of_written (hpattern d hentry)]
    rfl
  · next d =>
    obtain ⟨_ | path, level, pattern⟩ := a
    · rfl
    · have hpath := (h (textSlot "path" path) (by simp [slots])).written
      rw [kind, decodeText_of_written (hpath d hentry)]
      rfl
  · -- A key without a meaning leaves the draft as it is.
    next hnotLevel hnotPattern hnotPath =>
    obtain ⟨key, d⟩ := entry
    have hother : key ≠ "level" ∧ key ≠ "pattern" ∧ key ≠ "path" :=
      ⟨fun he => hnotLevel d (by rw [he]), fun he => hnotPattern d (by rw [he]),
        fun he => hnotPath d (by rw [he])⟩
    simp [take, hother]

/-- The kind is found before the other fields. -/
theorem exists_tag (h : ∀ slot ∈ a.slots, slot.StandsIn fields) :
    ∃ tag, Names.find? fields "type" = some tag ∧ decodeKind tag = .ok a.kind := by
  obtain ⟨_ | path, level, pattern⟩ := a
  · exact ⟨_, (h (textSlot "type" "stdout") (by simp [slots])).find?_text, rfl⟩
  · exact ⟨_, (h (textSlot "type" "file") (by simp [slots])).find?_text, rfl⟩

/-- The draft that has taken all fields of a map is finished to the appender. -/
theorem finish_foldl_take (h : ∀ slot ∈ a.slots, slot.StandsIn fields) :
    AppenderDraft.finish a.kind ((Names.keys fields).foldl a.take {}) = .ok a := by
  have hlevel : ((Names.keys fields).foldl a.take {}).level = a.level :=
    Record.foldl_take_of_standsIn AppenderDraft.level (h _ a.levelSlot_mem_slots)
      (fun _ _ => rfl) Eq.symm
  have hpattern : ((Names.keys fields).foldl a.take {}).pattern = a.pattern :=
    Record.foldl_take_of_standsIn AppenderDraft.pattern (h _ a.patternSlot_mem_slots)
      (fun _ _ => rfl) Eq.symm
  obtain ⟨_ | path, level, pattern⟩ := a
  · simp only [kind, AppenderDraft.finish, hlevel, hpattern]
  · have hpath : ((Names.keys fields).foldl (take ⟨.file path, level, pattern⟩) {}).path
        = some path :=
      Record.foldl_take_of_standsIn AppenderDraft.path
        (h (textSlot "path" path) (by simp [slots])) (fun _ _ => rfl) False.elim
    simp only [kind, AppenderDraft.finish, hpath, hlevel, hpattern]

theorem decode_map (h : ∀ slot ∈ a.slots, slot.StandsIn fields) :
    decode (.map fields) = .ok a := by
  obtain ⟨tag, hfind, hkind⟩ := exists_tag h
  have hread : fields.foldlM (AppenderDraft.read a.kind) {} = _ :=
    Record.foldlM_eq_ok (read_eq_take h) {}
  simp only [decode, hfind, hkind, ok_bind, hread, finish_foldl_take h]

/-- The values after the kind are read as the appender. -/
theorem decodeAppenderValues_of_row {values : List Document} (h : Record.Row a.slots.tail values) :
    decodeAppenderValues a.kind values = .ok a := by
  obtain ⟨_ | path, level, pattern⟩ := a
  · obtain ⟨afterLevel, afterPattern, hlevel, hpattern, hrow⟩ := h.decodeNext_level_pattern true
    cases hrow.eq_nil
    simp only [decodeAppenderValues, kind, ok_bind, hlevel, hpattern]
    rfl
  · obtain ⟨afterPath, rfl, hrow⟩ := h.exists_cons
    obtain ⟨afterLevel, afterPattern, hlevel, hpattern, hrow⟩ := hrow.decodeNext_level_pattern true
    cases hrow.eq_nil
    simp only [decodeAppenderValues, kind, decodeText, ok_bind, hlevel, hpattern]
    rfl

theorem decode_of_writes {d : Document} (h : a.Writes d) : decode d = .ok a := by
  cases h with
  | map _ hfields => exact decode_map hfields
  | seq hrow =>
    obtain ⟨_ | path, level, pattern⟩ := a
    · obtain ⟨values, rfl, hrest⟩ := hrow.exists_cons
      exact decodeAppenderValues_of_row (a := ⟨.console, level, pattern⟩) hrest
    · obtain ⟨values, rfl, hrest⟩ := hrow.exists_cons
      exact decodeAppenderValues_of_row (a := ⟨.file path, level, pattern⟩) hrest

/-- The written form of an appender stands for it. -/
theorem writes_encode (a : AppenderConfig) : a.Writes a.encode := by
  obtain ⟨_ | path, level, pattern⟩ := a
  · have hkeys : ((slots ⟨.console, level, pattern⟩).map Slot.key).Nodup := by
      change ["type", "level", "pattern"].Nodup
      decide
    cases pattern with
    | none => exact Record.Listed.writes_ofFields (.given rfl (.given .name (.leftOut rfl .nil))) hkeys
    | some pattern =>
      exact Record.Listed.writes_ofFields (.given rfl (.given .name (.given (.text pattern) .nil))) hkeys
  · have hkeys : ((slots ⟨.file path, level, pattern⟩).map Slot.key).Nodup := by
      change ["type", "path", "level", "pattern"].Nodup
      decide
    cases pattern with
    | none =>
      exact Record.Listed.writes_ofFields
        (.given rfl (.given rfl (.given .name (.leftOut rfl .nil)))) hkeys
    | some pattern =>
      exact Record.Listed.writes_ofFields
        (.given rfl (.given rfl (.given .name (.given (.text pattern) .nil)))) hkeys

/-- Each appender is read from the document that stands for it. -/
theorem decodeSequence_of_written {appenders : List AppenderConfig} {d : Document}
    (h : AppendersWritten appenders d) :
    decodeSequence AppenderConfig.decode d = .ok appenders := by
  cases h with
  | seq hall =>
    rw [decodeSequence]
    induction hall with
    | nil => rfl
    | cons hwrites _ ih =>
      rw [List.mapM_cons, decode_of_writes hwrites, ih]
      rfl

end AppenderConfig

/-! ## Loggers -/

namespace LoggerConfig

/-- The draft of a logger after the field with a key. -/
def take (c : LoggerConfig) (draft : LoggerDraft) (key : String) : LoggerDraft where
  name := if key = "name" then some c.name else draft.name
  level := if key = "level" then c.level else draft.level
  pattern := if key = "pattern" then c.pattern else draft.pattern
  appenders := if key = "appenders" then c.appenders else draft.appenders

variable {c : LoggerConfig}

/-- Reading a field that is written takes its value into the draft. -/
theorem read_eq_take (h : ∀ slot ∈ c.slots, slot.StandsIn fields)
    (entry : String × Document) (hentry : entry ∈ fields) (draft : LoggerDraft) :
    draft.read entry = .ok (c.take draft entry.1) := by
  simp only [slots, List.forall_mem_cons] at h
  obtain ⟨hname, hlevel, hpattern, happenders, _⟩ := h
  unfold LoggerDraft.read
  split
  · next d =>
    rw [decodeText_of_written (hname.written d hentry)]
    rfl
  · next d =>
    rw [decodeLevel_of_written (hlevel.written d hentry)]
    rfl
  · next d =>
    rw [decodePattern_of_written (hpattern.written d hentry)]
    rfl
  · next d =>
    rw [AppenderConfig.decodeSequence_of_written (happenders.written d hentry)]
    rfl
  · next hnotName hnotLevel hnotPattern hnotAppenders =>
    obtain ⟨key, d⟩ := entry
    have hother : key ≠ "name" ∧ key ≠ "level" ∧ key ≠ "pattern" ∧ key ≠ "appenders" :=
      ⟨fun he => hnotName d (by rw [he]), fun he => hnotLevel d (by rw [he]),
        fun he => hnotPattern d (by rw [he]), fun he => hnotAppenders d (by rw [he])⟩
    simp [take, hother]

/-- The draft that has taken all fields of a map is finished to the logger. -/
theorem finish_foldl_take (h : ∀ slot ∈ c.slots, slot.StandsIn fields) :
    LoggerDraft.finish ((Names.keys fields).foldl c.take {}) = .ok c := by
  simp only [slots, List.forall_mem_cons] at h
  obtain ⟨hname, hlevel, hpattern, happenders, _⟩ := h
  have hname : ((Names.keys fields).foldl c.take {}).name = some c.name :=
    Record.foldl_take_of_standsIn LoggerDraft.name hname (fun _ _ => rfl) False.elim
  have hlevel : ((Names.keys fields).foldl c.take {}).level = c.level :=
    Record.foldl_take_of_standsIn LoggerDraft.level hlevel (fun _ _ => rfl) Eq.symm
  have hpattern : ((Names.keys fields).foldl c.take {}).pattern = c.pattern :=
    Record.foldl_take_of_standsIn LoggerDraft.pattern hpattern (fun _ _ => rfl) Eq.symm
  have happenders : ((Names.keys fields).foldl c.take {}).appenders = c.appenders :=
    Record.foldl_take_of_standsIn LoggerDraft.appenders happenders (fun _ _ => rfl) Eq.symm
  simp only [LoggerDraft.finish, hname, hlevel, hpattern, happenders]

theorem decode_map (h : ∀ slot ∈ c.slots, slot.StandsIn fields) :
    decode (.map fields) = .ok c := by
  have hread : fields.foldlM LoggerDraft.read {} = _ := Record.foldlM_eq_ok (read_eq_take h) {}
  simp only [decode, ok_bind, hread, finish_foldl_take h]

theorem decodeLoggerValues_of_row {values : List Document} (h : Record.Row c.slots values) :
    decodeLoggerValues values = .ok c := by
  obtain ⟨afterName, rfl, hrow⟩ := h.exists_cons
  obtain ⟨afterLevel, afterPattern, hlevel, hpattern, hrow⟩ := hrow.decodeNext_level_pattern false
  obtain ⟨afterAppenders, happenders, hrow⟩ :=
    hrow.decodeNext (fun _ hd => AppenderConfig.decodeSequence_of_written hd) Eq.symm
  cases hrow.eq_nil
  simp only [decodeLoggerValues, decodeText, ok_bind, hlevel, hpattern, happenders]
  rfl

theorem decode_of_writes {d : Document} (h : c.Writes d) : decode d = .ok c := by
  cases h with
  | map _ hfields => exact decode_map hfields
  | seq hrow => exact decodeLoggerValues_of_row hrow

/-- The written form of a logger stands for it. -/
theorem writes_encode (c : LoggerConfig) : c.Writes c.encode := by
  have hkeys : (c.slots.map Slot.key).Nodup := by
    change ["name", "level", "pattern", "appenders"].Nodup
    decide
  have happenders : AppendersWritten c.appenders (.seq (c.appenders.map AppenderConfig.encode)) :=
    .seq (List.forall₂_map_right_iff.2
      (List.forall₂_same.2 fun a _ => AppenderConfig.writes_encode a))
  obtain ⟨name, level, _ | pattern, appenders⟩ := c
  · exact Record.Listed.writes_ofFields
      (.given rfl (.given .name (.leftOut rfl (.given happenders .nil)))) hkeys
  · exact Record.Listed.writes_ofFields
      (.given rfl (.given .name (.given (.text pattern) (.given happenders .nil)))) hkeys

/-- The written form of a logger and all other documents that stand for it are read as it. -/
theorem decode_notations (c : LoggerConfig) :
    decode c.encode = .ok c ∧ ∀ d, c.Writes d → decode d = .ok c :=
  ⟨decode_of_writes c.writes_encode, fun _ h => decode_of_writes h⟩

/-- A map whose keys are in no order, with a key that means nothing, a level that is a map and no
pattern; in it, a map whose path means nothing, a full sequence and one that is cut off. -/
theorem decode_notations_of_mixed :
    decode (.map [("pattern", .null), ("name", .str "net"), ("color", .int 3),
      ("appenders", .seq [
        .map [("path", .bool true), ("level", .str "ERROR"), ("type", .str "stdout")],
        .seq [.str "file", .str "net.log", .str "DEBUG", .str "%m%n"],
        .seq [.str "stdout"]]),
      ("level", .map [("WARN", .null)])]) =
    .ok ⟨"net", .warn, none, [⟨.console, .error, none⟩, ⟨.file "net.log", .debug, some "%m%n"⟩,
      ⟨.console, .debug, none⟩]⟩ := by
  refine (decode_notations _).2 _ ?_
  have hmap : AppenderConfig.Writes ⟨.console, .error, none⟩
      (.map [("path", .bool true), ("level", .str "ERROR"), ("type", .str "stdout")]) := by
    refine .map (by decide) ?_
    simp only [AppenderConfig.slots, List.cons_append, List.nil_append, List.forall_mem_cons]
    refine ⟨⟨?_, ?_⟩, ⟨?_, ?_⟩, ⟨?_, ?_⟩, List.forall_mem_nil _⟩
    · simp [textSlot, TextWritten]
    · simp [textSlot, Names.keys]
    · have hlevel : LevelWritten .error (.str "ERROR") := .name
      simpa [levelSlot] using hlevel
    · simp [levelSlot, Names.keys]
    · simp [patternSlot]
    · simp [patternSlot]
  have hfull : AppenderConfig.Writes ⟨.file "net.log", .debug, some "%m%n"⟩
      (.seq [.str "file", .str "net.log", .str "DEBUG", .str "%m%n"]) :=
    .seq (.value rfl (.value rfl (.value .name (.value (.text _) (.cut (List.forall_mem_nil _))))))
  have hcut : AppenderConfig.Writes ⟨.console, .debug, none⟩ (.seq [.str "stdout"]) :=
    .seq (.value rfl (.cut (by simp [levelSlot, patternSlot])))
  refine .map (by decide) ?_
  simp only [slots, List.forall_mem_cons]
  refine ⟨⟨?_, ?_⟩, ⟨?_, ?_⟩, ⟨?_, ?_⟩, ⟨?_, ?_⟩, List.forall_mem_nil _⟩
  · simp [textSlot, TextWritten]
  · simp [textSlot, Names.keys]
  · have hlevel : LevelWritten .warn (.map [("WARN", .null)]) := .map
    simpa [levelSlot] using hlevel
  · simp [levelSlot, Names.keys]
  · simpa [patternSlot] using PatternWritten.absent
  · simp [patternSlot]
  · simpa using AppendersWritten.seq (.cons hmap (.cons hfull (.cons hcut .nil)))
  · simp [Names.keys]

end LoggerConfig

end EventLog.Config
