import EventLog.Proofs.Layout.Composition

/-!
# The message in a line

A layout that shows the message of an event shows different messages as different lines, whatever
stands around them: text, other fields, markers, and the message itself once more
(`messages_told_apart`). The message may have any characters, those of what stands around it among
them, so a line does not tell by its characters where the message starts and ends. But everything
else in a line is fixed. So the length of a line gives the length of the message
(`length_textOf_saying`), and behind what the items before its first place show, the message can be
cut out (`exists_textOf_saying`).
-/

namespace EventLog.Layout

/-- The scene with another message. -/
def Scene.saying (scene : Scene) (message : String) : Scene :=
  { scene with event := { scene.event with message } }

/-- An item other than the message shows the same for every message. -/
theorem Item.render_saying_of_ne {item : Item} (h : item ≠ .field .message) (scene : Scene)
    (message : String) : item.render (scene.saying message) = item.render scene := by
  cases item with
  | field f =>
    cases f with
    | message => exact absurd rfl h
    | _ => rfl
  | _ => rfl

variable {items : List Item} (scene : Scene)

/-- Items without the message show the same for every message. -/
theorem textOf_saying_of_not_mem (h : .field .message ∉ items) (message : String) :
    textOf (scene.saying message) items = textOf scene items := by
  have hsame : ∀ item ∈ items, item.render (scene.saying message) = item.render scene := by
    intro item hitem
    exact Item.render_saying_of_ne (fun he => h (he ▸ hitem)) scene message
  rw [textOf, textOf, List.map_congr_left hsame]

/-- Up to the first place of the message a line is fixed, and there the message stands. -/
theorem exists_textOf_saying (h : .field .message ∈ items) :
    ∃ before after, ∀ message,
      textOf (scene.saying message) items =
        before ++ (message ++ textOf (scene.saying message) after) := by
  obtain ⟨front, after, rfl, hfront⟩ := List.eq_append_cons_of_mem h
  refine ⟨textOf scene front, after, fun message => ?_⟩
  rw [textOf_append, textOf_cons, textOf_saying_of_not_mem scene hfront]
  rfl

/-- A line is as long as what it shows besides the message, and the message for each place of it. -/
theorem length_textOf_saying (items : List Item) (message : String) :
    (textOf (scene.saying message) items).length =
      (textOf (scene.saying "") items).length + items.count (.field .message) * message.length := by
  induction items with
  | nil => simp [textOf]
  | cons item rest ih =>
    rw [textOf_cons, textOf_cons, String.length_append, String.length_append, ih]
    by_cases h : item = .field .message
    · have hshown : item.render (scene.saying message) = message := by rw [h]; rfl
      have hempty : item.render (scene.saying "") = "" := by rw [h]; rfl
      rw [hshown, hempty, h, List.count_cons_self, String.length_empty, Nat.succ_mul]
      omega
    · rw [List.count_cons_of_ne h, Item.render_saying_of_ne h, Item.render_saying_of_ne h]
      omega

/-- Where the message is shown, lines of one length are those of messages of one length. -/
theorem length_eq_of_textOf_saying (h : .field .message ∈ items) {first second : String}
    (hline : textOf (scene.saying first) items = textOf (scene.saying second) items) :
    first.length = second.length := by
  have hplaces : 0 < items.count (.field .message) := List.count_pos_iff.2 h
  have hlength := congrArg String.length hline
  rw [length_textOf_saying, length_textOf_saying scene items second] at hlength
  exact Nat.mul_left_cancel hplaces (Nat.add_left_cancel hlength)

/-- Where the message is shown, a line is that of one message only. -/
theorem textOf_saying_injective (h : .field .message ∈ items) :
    Function.Injective fun message => textOf (scene.saying message) items := by
  intro first second hline
  have hlength := length_eq_of_textOf_saying scene h hline
  rw [← String.length_toList, ← String.length_toList] at hlength
  obtain ⟨before, after, hcut⟩ := exists_textOf_saying scene h
  simp only [hcut, String.append_right_inj] at hline
  have hlist := congrArg String.toList hline
  rw [String.toList_append, String.toList_append] at hlist
  exact String.toList_inj.1 (List.append_inj_left hlist hlength)

/-- No layout that shows the message confuses two messages. If the items of a pattern have the message
among them, once or more and whatever stands around it, events that differ in their message are shown
as different lines; if they do not, events that differ in nothing else are shown as the same line. -/
theorem messages_told_apart (accepts : String → Bool) (pattern : String) (scene : Scene)
    (first second : String) :
    let layout := compileFor accepts pattern
    (.field .message ∈ layout.items →
      layout.render (scene.saying first) = layout.render (scene.saying second) → first = second) ∧
    (.field .message ∉ layout.items →
      layout.render (scene.saying first) = layout.render (scene.saying second)) := by
  intro layout
  constructor
  · intro h hline
    exact textOf_saying_injective scene h hline
  · intro h
    have hfirst := textOf_saying_of_not_mem scene h first
    have hsecond := textOf_saying_of_not_mem scene h second
    exact hfirst.trans hsecond.symm

/-- A message that reads like what stands between its places, in a layout with an unknown key. -/
theorem messages_told_apart_of_separator :
    let scene : Scene :=
      { east := 0, logger := "net", level := .info
        event :=
          { owner := ⟨0⟩, level := .info, file := "main.rs", line := 1
            stamp := { elapse := 0, thread := 1, fiber := 0, time := 0 } } }
    let layout := compileFor Date.accepts "%m|%m\x7bx\x7d%q"
    .field .message ∈ layout.items ∧
      ∀ message, layout.render (scene.saying message) = "a|%m|a|%m<<error_format %q>>" →
        message = "a|%m" := by
  intro scene layout
  have hmem : .field .message ∈ layout.items := by decide +kernel
  have hline : layout.render (scene.saying "a|%m") = "a|%m|a|%m<<error_format %q>>" := by
    decide +kernel
  refine ⟨hmem, fun message h => ?_⟩
  exact (messages_told_apart Date.accepts "%m|%m\x7bx\x7d%q" scene message "a|%m").1 hmem
    (h.trans hline.symm)

end EventLog.Layout
