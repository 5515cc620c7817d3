import EventLog.Proofs.Layout.Compile
import Mathlib.Data.List.Forall2

/-!
# Which dates are shown whole

A date pattern is checked when it is compiled and read again when a time is shown. The check refuses
what cannot be read (`Date.accepts`), but one element can be read and never shown: the form of the
offset that is meant for readers of dates, written `%#z`. A pattern with this element is accepted, and
every time within the calendar shows as nothing at all, the literal text around it included.

`dateTime_complete_iff` says that this is the only way to lose a date. An accepted pattern without
that element shows the text of each of its elements at every time within the calendar, and every
accepted pattern shows the plain number of seconds outside.
-/

namespace EventLog

namespace Date

/-- The times that the calendar can show. -/
def Supported (time : Int) : Prop := firstMoment ≤ time ∧ time ≤ lastMoment

/-- The texts are those of the elements of a pattern, each element having one. -/
def Shows (m : Moment) (elements : List Directive) (texts : List String) : Prop :=
  List.Forall₂ (fun element text => element.render m = some text) elements texts

/-- A text that shows a time whole: for a time within the calendar the texts of all elements of the
pattern one behind the other, for any other time its number. -/
inductive Complete (east : Int) (pattern : String) (time : Int) : String → Prop
  | shown {elements : List Directive} {texts : List String} : Supported time →
      read pattern.toList = some elements → Shows ⟨time, east⟩ elements texts →
      Complete east pattern time (String.join texts)
  | outside : ¬ Supported time → Complete east pattern time (toString time)

/-! ## Elements -/

/-- An element has a text at any moment, unless it is meant for readers. -/
theorem Directive.render_eq_none_iff {m : Moment} {element : Directive} :
    element.render m = none ↔ element = .offsetOnReading := by
  cases element <;> simp [Directive.render]

theorem mapM_render_eq_some_iff {m : Moment} {elements : List Directive} {texts : List String} :
    elements.mapM (Directive.render m) = some texts ↔ Shows m elements texts := by
  unfold Shows
  induction elements generalizing texts with
  | nil => cases texts <;> simp
  | cons element rest ih =>
    rw [List.mapM_cons]
    cases hfirst : element.render m with
    | none => cases texts <;> simp [hfirst]
    | some text =>
      cases hrest : rest.mapM (Directive.render m) with
      | none => cases texts <;> simp [hfirst, ← ih, hrest]
      | some others => cases texts <;> simp [hfirst, ← ih, hrest]

/-- A pattern is shown by the texts of all its elements. -/
theorem render?_eq_some_iff {m : Moment} {elements : List Directive} {text : String} :
    render? m elements = some text ↔ ∃ texts, Shows m elements texts ∧ text = String.join texts := by
  rw [render?, Option.map_eq_map, Option.map_eq_some_iff]
  exact exists_congr fun texts => and_congr mapM_render_eq_some_iff eq_comm

/-- Elements that are all meant to be shown have their texts. -/
theorem exists_shows {elements : List Directive} (h : .offsetOnReading ∉ elements) (m : Moment) :
    ∃ texts, Shows m elements texts := by
  induction elements with
  | nil => exact ⟨[], .nil⟩
  | cons element rest ih =>
    rw [List.mem_cons, not_or] at h
    obtain ⟨text, htext⟩ : ∃ text, element.render m = some text :=
      Option.ne_none_iff_exists'.1 fun hnone => h.1 (Directive.render_eq_none_iff.1 hnone).symm
    obtain ⟨texts, hrest⟩ := ih h.2
    exact ⟨text :: texts, .cons htext hrest⟩

/-- An element that is meant for readers keeps the elements around it from being shown. -/
theorem not_mem_of_shows {m : Moment} {elements : List Directive} {texts : List String}
    (h : Shows m elements texts) : .offsetOnReading ∉ elements := by
  induction h with
  | nil => exact List.not_mem_nil
  | cons htext _ ih =>
    rw [List.mem_cons, not_or]
    refine ⟨?_, ih⟩
    rintro rfl
    cases htext

/-! ## Whole times -/

section

variable {pattern : String} {elements : List Directive} (east time : Int)

theorem dateText_of_supported (hread : read pattern.toList = some elements)
    (htime : Supported time) :
    dateText east pattern time = (render? ⟨time, east⟩ elements).getD "" := by
  obtain ⟨hfirst, hlast⟩ := htime
  rw [dateText, if_pos ⟨hfirst, hlast⟩, hread, Option.bind_some]

theorem dateText_of_not_supported (htime : ¬ Supported time) :
    dateText east pattern time = toString time := if_neg htime

theorem complete_dateText (hread : read pattern.toList = some elements)
    (h : .offsetOnReading ∉ elements) :
    Complete east pattern time (dateText east pattern time) := by
  by_cases htime : Supported time
  · obtain ⟨texts, hshows⟩ := exists_shows h ⟨time, east⟩
    have htext : render? ⟨time, east⟩ elements = some (String.join texts) :=
      render?_eq_some_iff.2 ⟨texts, hshows, rfl⟩
    rw [dateText_of_supported east time hread htime, htext]
    exact .shown htime hread hshows
  · rw [dateText_of_not_supported east time htime]
    exact .outside htime

theorem dateText_eq_empty (hread : read pattern.toList = some elements) (htime : Supported time)
    (h : .offsetOnReading ∈ elements) : dateText east pattern time = "" := by
  rw [dateText_of_supported east time hread htime]
  cases htext : render? ⟨time, east⟩ elements with
  | none => rfl
  | some text =>
    obtain ⟨texts, hshows, -⟩ := render?_eq_some_iff.1 htext
    exact absurd h (not_mem_of_shows hshows)

/-- Within the calendar no text is whole for a pattern with an element that is meant for readers. -/
theorem not_complete (hread : read pattern.toList = some elements) (htime : Supported time)
    (h : .offsetOnReading ∈ elements) (text : String) : ¬ Complete east pattern time text := by
  intro hcomplete
  cases hcomplete with
  | shown _ hread' hshows =>
    rw [hread] at hread'
    cases hread'
    exact not_mem_of_shows hshows h
  | outside hnot => exact hnot htime

end

end Date

namespace Layout

open Date

/-- A sub-format that becomes a date is one that the calendar accepts. -/
theorem Item.ofKey?_date_eq_some {accepts : String → Bool} {sub pattern : String}
    (h : Item.ofKey? accepts ['d'] sub.toList = some (.dateTime pattern)) :
    pattern = datePattern sub.toList ∧ accepts pattern = true := by
  rw [ofKey?, if_pos rfl, ofDate_ofList, Option.some.injEq] at h
  split at h
  · next haccepts =>
    cases h
    exact ⟨rfl, haccepts⟩
  · cases h

/-- A date whose sub-format was accepted is shown whole exactly if the time is outside the calendar or
no element of the pattern is meant for readers only. Otherwise nothing of it is shown. -/
theorem dateTime_complete_iff {sub pattern : String}
    (h : Item.ofKey? Date.accepts ['d'] sub.toList = some (.dateTime pattern)) :
    pattern = datePattern sub.toList ∧
    ∃ elements, Date.read pattern.toList = some elements ∧
      ∀ scene : Scene,
        let time := scene.event.stamp.time
        let text := (Item.dateTime pattern).render scene
        (Complete scene.east pattern time text ↔ (Supported time → .offsetOnReading ∉ elements)) ∧
        (Supported time → .offsetOnReading ∈ elements → text = "") := by
  obtain ⟨hpattern, haccepts⟩ := Item.ofKey?_date_eq_some h
  obtain ⟨elements, hread⟩ := Option.isSome_iff_exists.1 haccepts
  refine ⟨hpattern, elements, hread, fun scene => ⟨⟨?_, ?_⟩, ?_⟩⟩
  · intro hcomplete htime hmem
    exact not_complete _ _ hread htime hmem _ hcomplete
  · intro hshowable
    by_cases htime : Supported scene.event.stamp.time
    · exact complete_dateText _ _ hread (hshowable htime)
    · show Complete _ _ _ (dateText scene.east pattern scene.event.stamp.time)
      rw [dateText_of_not_supported _ _ htime]
      exact .outside htime
  · exact dateText_eq_empty _ _ hread

/-- The hour with a percent sign behind it is shown whole at every time. -/
theorem dateTime_complete_iff_of_hour :
    Item.ofKey? Date.accepts ['d'] "at %_H%%".toList = some (.dateTime "at %_H%%") ∧
      ∀ scene : Scene, Complete scene.east "at %_H%%" scene.event.stamp.time
        ((Item.dateTime "at %_H%%").render scene) := by
  have haccepted : Item.ofKey? Date.accepts ['d'] "at %_H%%".toList =
      some (.dateTime "at %_H%%") := by
    decide +kernel
  have hread : Date.read "at %_H%%".toList =
      some [.literal 'a', .literal 't', .literal ' ', .number .hour .space, .literal '%'] := by
    decide +kernel
  obtain ⟨-, elements, helements, hcomplete⟩ := dateTime_complete_iff haccepted
  rw [hread] at helements
  cases helements
  exact ⟨haccepted, fun scene => (hcomplete scene).1.2 fun _ => by decide⟩

/-- A date that only readers would understand is accepted, and its literal text is lost with it. -/
theorem not_complete_of_offset_on_reading :
    let scene : Scene :=
      { east := 0, logger := "app", level := .info
        event :=
          { owner := ⟨0⟩, level := .info, file := "main.rs", line := 1
            stamp := { elapse := 0, thread := 1, fiber := 0, time := 0 }, message := "hi" } }
    Item.ofKey? Date.accepts ['d'] "at %#z".toList = some (.dateTime "at %#z") ∧
      (compile "%d\x7bat %#z\x7d|%m").hasError = false ∧
      (compile "%d\x7bat %#z\x7d|%m").render scene = "|hi" ∧
      ¬ Complete scene.east "at %#z" scene.event.stamp.time
        ((Item.dateTime "at %#z").render scene) := by
  intro scene
  have hread : Date.read "at %#z".toList =
      some [.literal 'a', .literal 't', .literal ' ', .offsetOnReading] := by
    decide +kernel
  refine ⟨by decide +kernel, by decide +kernel, by decide +kernel, ?_⟩
  exact not_complete _ _ hread (by unfold Supported; decide) (by decide) _

end Layout

end EventLog
