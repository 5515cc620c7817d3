import EventLog.Layout.Basic
import EventLog.Proofs.Date.Text
import EventLog.Proofs.Layout.Segmentation

/-!
# The columns of the default layout

A line in the default layout is seven columns with a tab between each two: date, thread, fiber, level,
logger, place and message. The message may be any text, so the line is split at its first six tabs
only, and none of the columns before the message has a tab as long as the names of logger and file
have none. From the columns everything that the line shows can be read back
(`render_default_decodable`). A file name may have colons; the last colon of the place stands before
the number of the line.
-/

namespace EventLog.Layout

open Text

/-! ## Splitting at a separator -/

/-- The parts of a text before the first occurrences of a separator, up to a number of them, and what
is left as the last part. -/
def splitFirst (separator : Char) : Nat → List Char → List (List Char)
  | 0, text => [text]
  | n + 1, text =>
    match text.dropWhile (· != separator) with
    | [] => [text]
    | _ :: rest => text.takeWhile (· != separator) :: splitFirst separator n rest

section

variable {separator : Char}

theorem takeWhile_before {before : List Char} (h : separator ∉ before) (after : List Char) :
    (before ++ separator :: after).takeWhile (· != separator) = before := by
  refine takeWhile_run (fun c hc => bne_iff_ne.2 fun he => h (he ▸ hc)) ?_
  rintro c ⟨⟩
  simp

theorem dropWhile_before {before : List Char} (h : separator ∉ before) (after : List Char) :
    (before ++ separator :: after).dropWhile (· != separator) = separator :: after := by
  refine dropWhile_run (fun c hc => bne_iff_ne.2 fun he => h (he ▸ hc)) ?_
  rintro c ⟨⟩
  simp

/-- A part without the separator is split off. -/
theorem splitFirst_succ {before : List Char} (h : separator ∉ before) (n : Nat)
    (after : List Char) :
    splitFirst separator (n + 1) (before ++ separator :: after) =
      before :: splitFirst separator n after := by
  rw [splitFirst, dropWhile_before h, takeWhile_before h]

/-- Parts without the separator, joined by it, are split again, whatever the last part has. -/
theorem splitFirst_intercalate {parts : List (List Char)} (h : ∀ part ∈ parts, separator ∉ part)
    (last : List Char) :
    splitFirst separator parts.length ([separator].intercalate (parts ++ [last])) =
      parts ++ [last] := by
  induction parts with
  | nil => simp [splitFirst]
  | cons part rest ih =>
    rw [List.forall_mem_cons] at h
    obtain ⟨hpart, hrest⟩ := h
    have hne : rest ++ [last] ≠ [] := List.concat_ne_nil _ _
    rw [List.cons_append, List.intercalate_cons_of_ne_nil hne, List.append_assoc,
      List.singleton_append, List.length_cons, splitFirst_succ hpart, ih hrest]

/-- The first separator of a text divides it in one way. -/
theorem append_separator_inj {before before' after after' : List Char} (h : separator ∉ before)
    (h' : separator ∉ before') (heq : before ++ separator :: after = before' ++ separator :: after') :
    before = before' ∧ after = after' := by
  have htake := congrArg (List.takeWhile (· != separator)) heq
  have hdrop := congrArg (List.dropWhile (· != separator)) heq
  rw [takeWhile_before h, takeWhile_before h'] at htake
  rw [dropWhile_before h, dropWhile_before h'] at hdrop
  exact ⟨htake, (List.cons.inj hdrop).2⟩

end

/-! ## The columns of a line -/

/-- The date pattern of the default layout. -/
def columnDatePattern : String := "%Y-%m-%d %H:%M:%S"

/-- The columns of a line in the default layout. -/
def columns (scene : Scene) : List String :=
  [Date.dateText scene.east columnDatePattern scene.event.stamp.time,
    toString scene.event.stamp.thread,
    toString scene.event.stamp.fiber,
    "[" ++ scene.level.name ++ "]",
    "[" ++ scene.logger ++ "]",
    scene.event.file ++ ":" ++ toString scene.event.line,
    scene.event.message ++ "\n"]

theorem items_default :
    (compile defaultPattern).items =
      [.dateTime columnDatePattern, .field .tab, .field .threadId, .field .tab, .field .fiberId,
        .field .tab, .literal "[", .field .level, .literal "]", .field .tab, .literal "[",
        .field .loggerName, .literal "]", .field .tab, .field .fileName, .literal ":", .field .line,
        .field .tab, .field .message, .field .newLine] := by
  decide +kernel

/-- A line in the default layout is its columns with tabs between them. -/
theorem toList_render_default (scene : Scene) :
    ((compile defaultPattern).render scene).toList =
      ['\t'].intercalate ((columns scene).map String.toList) := by
  rw [render, items_default]
  simp [Item.render, Field.render, columns, List.intercalate]

theorem tabFree_columnDate (east time : Int) :
    TabFree (Date.dateText east columnDatePattern time) := by
  refine Date.tabFree_dateText (fun directives hread => ?_) east time
  have hdirectives : Date.read columnDatePattern.toList =
      some [.number .year .zero, .literal '-', .number .month .zero, .literal '-',
        .number .day .zero, .literal ' ', .number .hour .zero, .literal ':', .number .minute .zero,
        .literal ':', .number .second .zero] := by
    decide +kernel
  rw [hdirectives] at hread
  cases hread
  decide

theorem tabFree_name (level : Level) : TabFree level.name := by
  cases level <;> decide

/-- What is read back from a line: two scenes that agree on it. -/
structure SameRecord (scene other : Scene) : Prop where
  level : scene.level = other.level
  thread : scene.event.stamp.thread = other.event.stamp.thread
  fiber : scene.event.stamp.fiber = other.event.stamp.fiber
  logger : scene.logger = other.logger
  file : scene.event.file = other.event.file
  line : scene.event.line = other.event.line
  message : scene.event.message = other.event.message
  date : Date.dateText scene.east columnDatePattern scene.event.stamp.time =
    Date.dateText other.east columnDatePattern other.event.stamp.time

/-! ## Reading a line back -/

/-- A line is split at its first six tabs into its columns. -/
theorem splitFirst_render_default {scene : Scene} (hlogger : TabFree scene.logger)
    (hfile : TabFree scene.event.file) :
    splitFirst '\t' 6 ((compile defaultPattern).render scene).toList =
      (columns scene).map String.toList := by
  have hcolumns : ∀ column ∈ (columns scene).dropLast, TabFree column := by
    have hbracket : TabFree "[" ∧ TabFree "]" ∧ TabFree ":" := by decide
    simp [columns, hlogger, hfile, tabFree_columnDate, tabFree_name, hbracket]
  rw [toList_render_default]
  exact splitFirst_intercalate (List.forall_mem_map.2 hcolumns) _

theorem name_injective {level level' : Level} (h : level.name = level'.name) : level = level' := by
  have hread := Level.ofName?_name level
  rw [h, Level.ofName?_name] at hread
  exact (Option.some.inj hread).symm

/-- The last colon of a place stands before its line, since a number has none. -/
theorem place_injective {file file' : String} {line line' : Nat}
    (h : file ++ ":" ++ toString line = file' ++ ":" ++ toString line') :
    file = file' ∧ line = line' := by
  have hcolon : ∀ n : Nat, ':' ∉ (toString n).toList.reverse := fun n hmem =>
    not_mem_decimal (by decide) n (List.mem_reverse.1 hmem)
  have hreversed := congrArg (fun text : String => text.toList.reverse) h
  simp only [String.toList_append, List.reverse_append] at hreversed
  obtain ⟨hline, hfile⟩ := append_separator_inj (hcolon line) (hcolon line') hreversed
  exact ⟨String.toList_inj.1 (List.reverse_inj.1 hfile),
    decimal_injective (String.toList_inj.1 (List.reverse_inj.1 hline))⟩

/-- Equal columns show equal records. -/
theorem sameRecord_of_columns {scene other : Scene} (h : columns scene = columns other) :
    SameRecord scene other := by
  simp only [columns, List.cons.injEq, and_true] at h
  obtain ⟨hdate, hthread, hfiber, hlevel, hlogger, hplace, hmessage⟩ := h
  obtain ⟨hfile, hline⟩ := place_injective hplace
  exact {
    level := name_injective (by simpa using hlevel)
    thread := decimal_injective hthread
    fiber := decimal_injective hfiber
    logger := by simpa using hlogger
    file := hfile
    line := hline
    message := by simpa using hmessage
    date := hdate }

/-- A line in the default layout is split at its first six tabs into its columns, and of two scenes
that are shown as the same line every part that is shown is the same. The names of loggers and files
may have no tabs; messages may have any characters. -/
theorem render_default_decodable {scene : Scene} (hlogger : TabFree scene.logger)
    (hfile : TabFree scene.event.file) :
    splitFirst '\t' 6 ((compile defaultPattern).render scene).toList =
        (columns scene).map String.toList ∧
      ∀ other : Scene, TabFree other.logger → TabFree other.event.file →
        (compile defaultPattern).render scene = (compile defaultPattern).render other →
        SameRecord scene other := by
  refine ⟨splitFirst_render_default hlogger hfile, fun other hlogger' hfile' hequal => ?_⟩
  have hsplit := splitFirst_render_default hlogger hfile
  rw [hequal, splitFirst_render_default hlogger' hfile'] at hsplit
  rw [List.map_inj_right fun _ _ => String.toList_inj.1] at hsplit
  exact sameRecord_of_columns hsplit.symm

/-- A message with a tab and a line end, a file with a colon and a logger with a bracket do not get in
the way. The line is shown alike in a zone where the clocks are an hour ahead, and the logger that the
event was made for is not shown. -/
theorem render_default_decodable_of_tabs :
    let scene : Scene :=
      { east := 0, logger := "net]", level := .warn
        event :=
          { owner := ⟨0⟩, level := .debug, file := "C:main", line := 42, message := "one\ttwo\n"
            stamp := { elapse := 1, thread := 7, fiber := 0, time := 1736332245 } } }
    let other : Scene :=
      { scene with
        east := 3600
        event :=
          { scene.event with
            owner := ⟨5⟩
            stamp := { scene.event.stamp with time := 1736328645 } } }
    (TabFree scene.logger ∧ TabFree scene.event.file) ∧
      splitFirst '\t' 6 ((compile defaultPattern).render scene).toList =
        ["2025-01-08 10:30:45", "7", "0", "[WARN]", "[net]]", "C:main:42", "one\ttwo\n\n"].map
          String.toList ∧
      SameRecord scene other := by
  intro scene other
  have hfree : TabFree scene.logger ∧ TabFree scene.event.file := by decide
  have hequal : (compile defaultPattern).render scene = (compile defaultPattern).render other := by
    decide +kernel
  have hcolumns : columns scene =
      ["2025-01-08 10:30:45", "7", "0", "[WARN]", "[net]]", "C:main:42", "one\ttwo\n\n"] := by
    decide +kernel
  obtain ⟨hsplit, hsame⟩ := render_default_decodable hfree.1 hfree.2
  rw [hcolumns] at hsplit
  exact ⟨hfree, hsplit, hsame other hfree.1 hfree.2 hequal⟩

end EventLog.Layout
