import EventLog.Proofs.Layout.Compile
import Mathlib.Data.List.Chain

/-!
# Printing a layout and compiling it again

`print` writes items as a pattern: the percent signs of a literal doubled, every other item as a
placeholder with braces, so that whatever stands behind it is not read as part of its key. A list of
items is `Canonical` when it has no marker, no empty literal, no two literals side by side, and only
date patterns that can be written between braces and are accepted.

On the error-free part of the language the two are inverse (`canonical_iff_compiled`): error-free
patterns compile to canonical items, and canonical items are printed as an error-free pattern that
compiles to them. The argument goes through the grammar: `segmentation_print` gives the segments of
what is printed, and by uniqueness these are the ones that are read.
-/

namespace EventLog.Layout

/-! ## Printing -/

/-- A character of text as it is written in a pattern. -/
def escapeChar (c : Char) : List Char := if c = '%' then ['%', '%'] else [c]

/-- A text with every percent sign doubled. -/
def escape (text : String) : String := String.ofList (text.toList.flatMap escapeChar)

/-- The characters that an item is written with. -/
def Item.written : Item → List Char
  | literal text => text.toList.flatMap escapeChar
  | field f => ['%', f.key, '\x7b', '\x7d']
  | dateTime pattern => '%' :: 'd' :: '\x7b' :: (pattern.toList ++ ['\x7d'])
  | unfinished sub => '%' :: '\x7b' :: sub.toList

/-- Items as a pattern. -/
def print (items : List Item) : String := String.ofList (items.flatMap Item.written)

/-! ## Canonical items -/

/-- An item that an error-free pattern can have. -/
def Item.IsHonoured (accepts : String → Bool) : Item → Prop
  | literal text => text ≠ ""
  | field _ => True
  | dateTime pattern => pattern ≠ "" ∧ '\x7d' ∉ pattern.toList ∧ accepts pattern = true
  | unfinished _ => False

/-- Items that an error-free pattern can have, with no two literals side by side. -/
structure Canonical (accepts : String → Bool) (items : List Item) : Prop where
  honoured : ∀ item ∈ items, item.IsHonoured accepts
  separated : items.IsChain fun a b => ¬ (a.isLiteral = true ∧ b.isLiteral = true)

section

variable {accepts : String → Bool}

theorem canonical_nil : Canonical accepts [] := ⟨by simp, .nil⟩

theorem canonical_cons {item : Item} {items : List Item} :
    Canonical accepts (item :: items) ↔
      item.IsHonoured accepts ∧
        (∀ next ∈ items.head?, ¬ (item.isLiteral = true ∧ next.isLiteral = true)) ∧
        Canonical accepts items := by
  constructor
  · rintro ⟨hgood, hsep⟩
    rw [List.forall_mem_cons] at hgood
    rw [List.isChain_cons] at hsep
    exact ⟨hgood.1, hsep.1, hgood.2, hsep.2⟩
  · rintro ⟨hitem, hnext, hgood, hsep⟩
    exact ⟨List.forall_mem_cons.2 ⟨hitem, hgood⟩, List.isChain_cons.2 ⟨hnext, hsep⟩⟩

/-! ## Error-free patterns have canonical items -/

theorem isHonoured_datePattern {sub : List Char} (hsub : '\x7d' ∉ sub)
    (ha : accepts (datePattern sub) = true) :
    (Item.dateTime (datePattern sub)).IsHonoured accepts := by
  by_cases h : sub = []
  · subst h
    exact ⟨by decide, by decide, ha⟩
  · have hp : datePattern sub = String.ofList sub := if_neg h
    refine ⟨?_, ?_, ha⟩
    · rw [hp]
      exact fun he => h (String.ofList_eq_empty_iff.1 he)
    · rwa [hp, String.toList_ofList]

/-- A placeholder that is honoured stands for a field or a date, and never for a literal. -/
theorem Placeholder.isHonoured {key sub : List Char} {item : Item}
    (h : Placeholder accepts key sub item false) (hsub : '\x7d' ∉ sub) :
    item.IsHonoured accepts ∧ item.isLiteral = false := by
  cases h with
  | field f => exact ⟨trivial, rfl⟩
  | date ha => exact ⟨isHonoured_datePattern hsub ha, rfl⟩

theorem Segment.Means.isHonoured {s : Segment} {item : Item} (h : s.Means accepts item false)
    (hsub : ∀ key sub, s = .braced key sub → '\x7d' ∉ sub) :
    item.IsHonoured accepts ∧ item.isLiteral = false := by
  cases h with
  | bare h => exact h.isHonoured (List.not_mem_nil)
  | braced h => exact h.isHonoured (hsub _ _ rfl)

/-- Segments without a fault stand for canonical items, and start with a literal only if they start
with text. -/
theorem Compiles.canonical {segments : List Segment} {items : List Item}
    (h : Compiles accepts segments items) (hok : ∀ s ∈ segments, s.isFaulty accepts = false)
    (hsub : ∀ key sub, .braced key sub ∈ segments → '\x7d' ∉ sub) :
    Canonical accepts items ∧
      ((∀ s ∈ segments.head?, s.char? = none) → ∀ item ∈ items.head?, item.isLiteral = false) := by
  induction h with
  | nil => exact ⟨canonical_nil, fun _ => by simp⟩
  | @run run rest items hne hrun hend _ ih =>
    obtain ⟨hcanon, hstart⟩ := ih (fun s hs => hok s (List.mem_append_right run hs))
      fun key sub hs => hsub key sub (List.mem_append_right run hs)
    obtain ⟨s, more, rfl⟩ := List.exists_cons_of_ne_nil hne
    obtain ⟨c, hc⟩ := Option.isSome_iff_exists.1 (hrun s List.mem_cons_self)
    constructor
    · refine canonical_cons.2 ⟨?_, ?_, hcanon⟩
      · intro he
        rw [String.ofList_eq_empty_iff, List.filterMap_cons_some hc] at he
        cases he
      · intro next hnext hboth
        rw [hstart hend next hnext] at hboth
        cases hboth.2
    · intro htext
      rw [htext s rfl] at hc
      cases hc
  | @placeholder s item faulty rest items hmeans _ ih =>
    obtain ⟨hcanon, -⟩ := ih (fun t ht => hok t (List.mem_cons_of_mem s ht))
      fun key sub ht => hsub key sub (List.mem_cons_of_mem s ht)
    have hf : faulty = false :=
      (Segment.means_iff.1 hmeans).2.2 ▸ hok s List.mem_cons_self
    subst hf
    obtain ⟨hitem, hlit⟩ := hmeans.isHonoured fun key sub hs =>
      hsub key sub (hs ▸ List.mem_cons_self)
    constructor
    · refine canonical_cons.2 ⟨hitem, fun next _ hboth => ?_, hcanon⟩
      rw [hlit] at hboth
      cases hboth.1
    · rintro - item ⟨⟩
      exact hlit

/-- No sub-format of a pattern has a closing brace. -/
theorem Segmentation.not_mem_sub {pattern : List Char} {segments : List Segment}
    (h : Segmentation pattern segments) {key sub : List Char}
    (hs : .braced key sub ∈ segments) : '\x7d' ∉ sub := by
  induction h with
  | nil => cases hs
  | cons hstands _ ih =>
    rcases List.mem_cons.1 hs with rfl | hs
    · exact hstands.2
    · exact ih hs

theorem canonical_items {pattern : String} (h : (compileFor accepts pattern).hasError = false) :
    Canonical accepts (compileFor accepts pattern).items := by
  rw [hasError_compileFor, List.any_eq_false] at h
  rw [items_compileFor]
  refine ((compiles_iff accepts).2 rfl).canonical (fun s hs => by simpa using h s hs) ?_ |>.1
  exact fun key sub hs => (segmentation_segments pattern.toList).not_mem_sub hs

/-! ## What is printed is read back -/

/-- The segments that a text is printed as. -/
def textSegments (text : List Char) : List Segment :=
  text.map fun c => if c = '%' then .escape else .text c

theorem char?_textSegment (c : Char) :
    Segment.char? (if c = '%' then .escape else .text c) = some c := by
  by_cases h : c = '%'
  · rw [if_pos h, h]
    rfl
  · rw [if_neg h]
    rfl

theorem source_textSegment (c : Char) :
    Segment.source (if c = '%' then .escape else .text c) = escapeChar c := by
  by_cases h : c = '%'
  · rw [if_pos h, escapeChar, if_pos h]
    rfl
  · rw [if_neg h, escapeChar, if_neg h]
    rfl

theorem filterMap_textSegments (text : List Char) :
    (textSegments text).filterMap Segment.char? = text := by
  simp [textSegments, List.filterMap_map, char?_textSegment]

theorem isSome_char?_textSegments (text : List Char) :
    ∀ s ∈ textSegments text, s.char?.isSome := by
  intro s hs
  obtain ⟨c, -, rfl⟩ := List.mem_map.1 hs
  rw [char?_textSegment]
  rfl

/-- The segments that an item is printed as. -/
def Item.printed : Item → List Segment
  | literal text => textSegments text.toList
  | field f => [.braced [f.key] []]
  | dateTime pattern => [.braced ['d'] pattern.toList]
  | unfinished sub => [.dangling [] sub.toList]

theorem flatMap_source_printed (item : Item) : item.printed.flatMap Segment.source = item.written := by
  cases item with
  | literal text =>
    rw [Item.printed, textSegments, List.flatMap_map, Item.written]
    exact congrArg text.toList.flatMap (funext source_textSegment)
  | field f => rfl
  | dateTime pattern => simp [Item.printed, Item.written, Segment.source]
  | unfinished sub => simp [Item.printed, Item.written, Segment.source]

theorem isKeyChar_key (f : Field) : isKeyChar f.key := by cases f <;> decide

/-- An honoured item is printed as segments that stand before anything. -/
theorem standsBefore_printed {item : Item} (h : item.IsHonoured accepts) :
    ∀ s ∈ item.printed, ∀ rest, s.StandsBefore rest := by
  intro s hs rest
  cases item with
  | literal text =>
    obtain ⟨c, -, rfl⟩ := List.mem_map.1 hs
    by_cases hc : c = '%'
    · rw [if_pos hc]
      trivial
    · rw [if_neg hc]
      exact hc
  | field f =>
    rw [List.mem_singleton.1 hs]
    exact ⟨by simpa using isKeyChar_key f, List.not_mem_nil⟩
  | dateTime pattern =>
    rw [List.mem_singleton.1 hs]
    refine ⟨fun c hc => ?_, h.2.1⟩
    rw [List.mem_singleton.1 hc]
    decide
  | unfinished sub => exact h.elim

theorem Segmentation.prepend {front segments : List Segment} {rest : List Char}
    (h : ∀ s ∈ front, ∀ rest, s.StandsBefore rest) (hrest : Segmentation rest segments) :
    Segmentation (front.flatMap Segment.source ++ rest) (front ++ segments) := by
  induction front with
  | nil => exact hrest
  | cons s front ih =>
    rw [List.flatMap_cons, List.append_assoc]
    refine .cons (h s List.mem_cons_self _) (ih fun t ht => ?_)
    exact h t (List.mem_cons_of_mem s ht)

/-- Honoured items are printed as a pattern whose segments are those of the items, in order. -/
theorem segmentation_print {items : List Item} (h : ∀ item ∈ items, item.IsHonoured accepts) :
    Segmentation (items.flatMap Item.written) (items.flatMap Item.printed) := by
  induction items with
  | nil => exact .nil
  | cons item items ih =>
    rw [List.forall_mem_cons] at h
    rw [List.flatMap_cons, List.flatMap_cons, ← flatMap_source_printed]
    exact (ih h.2).prepend (standsBefore_printed h.1)

theorem segments_print {items : List Item} (h : ∀ item ∈ items, item.IsHonoured accepts) :
    segments (print items).toList = items.flatMap Item.printed := by
  rw [print, String.toList_ofList]
  exact (segmentation_print h).eq_segments.symm

theorem datePattern_toList {pattern : String} (h : pattern ≠ "") :
    datePattern pattern.toList = pattern := by
  have hne : pattern.toList ≠ [] := fun he => h (String.toList_eq_nil_iff.1 he)
  rw [datePattern, if_neg hne, String.ofList_toList]

/-- An honoured item that is no literal is what its segment means. -/
theorem means_printed {item : Item} (h : item.IsHonoured accepts) (hlit : item.isLiteral = false) :
    ∃ s, item.printed = [s] ∧ s.Means accepts item false := by
  cases item with
  | literal text => cases hlit
  | field f => exact ⟨_, rfl, .braced (.field f [])⟩
  | dateTime pattern =>
    obtain ⟨hne, -, ha⟩ := h
    have hp := datePattern_toList hne
    refine ⟨_, rfl, .braced ?_⟩
    rw [← hp] at ha
    simpa only [hp] using Placeholder.date ha
  | unfinished sub => exact h.elim

/-- Canonical items are what their printed segments stand for: literals stay apart because what is
printed next starts with a placeholder. -/
theorem compiles_printed {items : List Item} (h : Canonical accepts items) :
    Compiles accepts (items.flatMap Item.printed) items := by
  induction items with
  | nil => exact .nil
  | cons item items ih =>
    obtain ⟨hitem, hnext, hrest⟩ := canonical_cons.1 h
    rw [List.flatMap_cons]
    by_cases hlit : item.isLiteral = true
    · cases item with
      | literal text =>
        have htext : textSegments text.toList ≠ [] := by
          rw [textSegments, Ne, List.map_eq_nil_iff]
          exact fun he => hitem (String.toList_eq_nil_iff.1 he)
        have hstart : ∀ s ∈ (items.flatMap Item.printed).head?, s.char? = none := by
          cases items with
          | nil => simp
          | cons next items =>
            have hnot : next.isLiteral = false := by simpa [hlit] using hnext next rfl
            obtain ⟨s, hs, hmeans⟩ := means_printed (canonical_cons.1 hrest).1 hnot
            rw [List.flatMap_cons, hs]
            rintro t ⟨⟩
            exact (Segment.means_iff.1 hmeans).1
        have hrun := Compiles.run htext (isSome_char?_textSegments text.toList) hstart (ih hrest)
        rwa [filterMap_textSegments, String.ofList_toList] at hrun
      | _ => cases hlit
    · obtain ⟨s, hs, hmeans⟩ := means_printed hitem (by simpa using hlit)
      rw [hs]
      exact .placeholder hmeans (ih hrest)

theorem isFaulty_printed {item : Item} (h : item.IsHonoured accepts) :
    ∀ s ∈ item.printed, s.isFaulty accepts = false := by
  intro s hs
  by_cases hlit : item.isLiteral = true
  · cases item with
    | literal text =>
      obtain ⟨c, -, rfl⟩ := List.mem_map.1 hs
      split <;> rfl
    | _ => cases hlit
  · obtain ⟨t, ht, hmeans⟩ := means_printed h (by simpa using hlit)
    rw [ht, List.mem_singleton] at hs
    rw [hs]
    exact (Segment.means_iff.1 hmeans).2.2

theorem items_compileFor_print {items : List Item} (h : Canonical accepts items) :
    (compileFor accepts (print items)).items = items := by
  rw [items_compileFor, segments_print h.honoured]
  exact ((compiles_iff accepts).1 (compiles_printed h)).symm

theorem hasError_compileFor_print {items : List Item} (h : Canonical accepts items) :
    (compileFor accepts (print items)).hasError = false := by
  rw [hasError_compileFor, segments_print h.honoured, List.any_eq_false]
  intro s hs
  obtain ⟨item, hitem, hs⟩ := List.mem_flatMap.1 hs
  rw [isFaulty_printed (h.honoured item hitem) s hs]
  exact Bool.false_ne_true

theorem escape_empty : escape "" = print [] := by simp [escape, print]

theorem escape_eq_print (text : String) : escape text = print [.literal text] := by
  rw [escape, print, List.flatMap_singleton, Item.written]

/-- A text with its percent signs doubled compiles to its literal alone. -/
theorem items_compileFor_escape (text : String) :
    (compileFor accepts (escape text)).items = if text = "" then [] else [.literal text] := by
  by_cases h : text = ""
  · rw [if_pos h, h, escape_empty]
    exact items_compileFor_print canonical_nil
  · have hcanon : Canonical accepts [.literal text] :=
      canonical_cons.2 ⟨h, by simp, canonical_nil⟩
    rw [if_neg h, escape_eq_print]
    exact items_compileFor_print hcanon

theorem render_compileFor_escape (text : String) (scene : Scene) :
    (compileFor accepts (escape text)).render scene = text := by
  rw [render, items_compileFor_escape]
  by_cases h : text = ""
  · rw [if_pos h, h]
    rfl
  · rw [if_neg h]
    simp [Item.render, String.join]

end

/-- Compiling and printing are inverse on the error-free part of the language, whatever date
patterns the calendar accepts. In particular a text with its percent signs doubled is shown as
itself. -/
theorem canonical_iff_compiled (accepts : String → Bool) :
    (∀ pattern, (compileFor accepts pattern).hasError = false →
      Canonical accepts (compileFor accepts pattern).items) ∧
    (∀ items, Canonical accepts items →
      (compileFor accepts (print items)).hasError = false ∧
        (compileFor accepts (print items)).items = items) ∧
    (∀ items, Canonical accepts items ↔
      ∃ pattern, (compileFor accepts pattern).hasError = false ∧
        (compileFor accepts pattern).items = items) ∧
    (∀ pattern, (compileFor accepts pattern).hasError = false →
      let again := compileFor accepts (print (compileFor accepts pattern).items)
      again.hasError = false ∧ again.items = (compileFor accepts pattern).items) ∧
    (∀ text scene, (compileFor accepts (escape text)).render scene = text) := by
  have hprint : ∀ items, Canonical accepts items →
      (compileFor accepts (print items)).hasError = false ∧
        (compileFor accepts (print items)).items = items :=
    fun items h => ⟨hasError_compileFor_print h, items_compileFor_print h⟩
  refine ⟨fun pattern => canonical_items, hprint, ?_, ?_, render_compileFor_escape⟩
  · intro items
    constructor
    · exact fun h => ⟨print items, hprint items h⟩
    · rintro ⟨pattern, hok, rfl⟩
      exact canonical_items hok
  · exact fun pattern h => hprint _ (canonical_items h)

/-- Text with percent signs and braces, two fields side by side and a date pattern with an opening
brace are read back from their printed form. -/
theorem canonical_iff_compiled_of_braces :
    let items : List Item :=
      [.literal "100% \x7d\x7bm", .field .message, .field .level, .dateTime "%H\x7b%%",
        .literal "\x7dx"]
    Canonical Date.accepts items ∧
      (compileFor Date.accepts (print items)).items = items ∧
      Canonical Date.accepts (compileFor Date.accepts (print items)).items := by
  intro items
  have hdate : Date.accepts "%H\x7b%%" = true := by decide +kernel
  have hcanon : Canonical Date.accepts items := by
    refine ⟨?_, ?_⟩
    · simp [items, Item.IsHonoured, hdate]
    · simp [items, Item.isLiteral]
  obtain ⟨hcompiled, hprinted, -⟩ := canonical_iff_compiled Date.accepts
  obtain ⟨hok, hitems⟩ := hprinted items hcanon
  exact ⟨hcanon, hitems, hcompiled (print items) hok⟩

end EventLog.Layout
