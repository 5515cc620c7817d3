import EventLog.Proofs.Layout.Compile

/-!
# One pattern behind another

A pattern written behind another is read as if it stood alone, unless the last placeholder of the
first can go on into it (`Segmentation.extend`). The text that is shown is that of the segments one by
one (`render_compileFor`): where two runs of text meet they become one literal, which changes the
items but not the text. So layouts compose (`layouts_compose`). A placeholder whose brace is open takes
in whatever follows up to a closing brace, and shows its marker all the same.

A placeholder that cannot be honoured shows its marker and touches nothing else: the segments before
it and behind it show what they show as patterns of their own.
-/

namespace EventLog.Layout

namespace Segment

/-- Whether a segment ends where it ends, whatever is written behind it. -/
def isClosed : Segment → Bool
  | text _ => true
  | escape => true
  | bare _ => false
  | braced _ _ => true
  | dangling _ _ => false

/-- The pattern that segments spell. -/
def spell (segments : List Segment) : String := String.ofList (segments.flatMap source)

/-- Whether something belongs to a segment is settled by the first character behind it, so more text
after that does not matter. -/
theorem StandsBefore.append {s : Segment} {rest : List Char} (h : s.StandsBefore rest)
    (hne : rest ≠ []) (more : List Char) : s.StandsBefore (rest ++ more) := by
  cases s with
  | text c => exact h
  | escape => trivial
  | bare key =>
    refine ⟨h.1, ?_⟩
    obtain ⟨d, others, rfl⟩ := List.exists_cons_of_ne_nil hne
    exact h.2
  | braced key sub => exact h
  | dangling key sub => exact absurd h.2.2 hne

/-- What stands behind a segment may be cut off anywhere. -/
theorem StandsBefore.of_append {s : Segment} {rest more : List Char}
    (h : s.StandsBefore (rest ++ more)) : s.StandsBefore rest := by
  cases s with
  | text c => exact h
  | escape => trivial
  | bare key =>
    refine ⟨h.1, fun c hc => h.2 c ?_⟩
    rw [List.head?_append, hc]
    rfl
  | braced key sub => exact h
  | dangling key sub => exact ⟨h.1, h.2.1, (List.append_eq_nil_iff.1 h.2.2).1⟩

/-- A closed segment of a pattern stands before anything. -/
theorem StandsBefore.of_isClosed {s : Segment} {rest : List Char} (h : s.StandsBefore rest)
    (hclosed : s.isClosed = true) (other : List Char) : s.StandsBefore other := by
  cases s with
  | text c => exact h
  | escape => trivial
  | braced key sub => exact h
  | bare key => cases hclosed
  | dangling key sub => cases hclosed

end Segment

/-! ## Reading two patterns as one -/

/-- The first segments of a pattern are read as they are when the pattern goes on, if the others are
not all there was: what is read anew starts behind the first. -/
theorem Segmentation.extend {front back back' : List Segment} {pattern more : List Char}
    (h : Segmentation pattern (front ++ back)) (hne : back ≠ [])
    (h' : Segmentation (back.flatMap Segment.source ++ more) back') :
    Segmentation (pattern ++ more) (front ++ back') := by
  induction front generalizing pattern with
  | nil =>
    rw [List.nil_append] at h
    rwa [← h.flatMap_source]
  | cons s front ih =>
    rw [List.cons_append] at h
    cases h with
    | cons hstands hrest =>
      rw [List.append_assoc]
      refine .cons (hstands.append ?_ more) (ih hrest)
      -- Behind `s` stand at least the characters of the last segments.
      rw [← hrest.flatMap_source, List.flatMap_append]
      obtain ⟨t, others, rfl⟩ := List.exists_cons_of_ne_nil hne
      simp [Segment.source_ne_nil t]

/-- The last segment of a pattern is well-formed and stands at the end. -/
theorem Segmentation.standsBefore_last {pattern : List Char} {front : List Segment} {s : Segment}
    (h : Segmentation pattern (front ++ [s])) : s.StandsBefore [] := by
  induction front generalizing pattern with
  | nil =>
    cases h with
    | cons hstands hrest =>
      cases hrest
      exact hstands
  | cons t front ih =>
    rw [List.cons_append] at h
    cases h with
    | cons _ hrest => exact ih hrest

/-- A pattern is read as if it stood alone behind one whose last segment stands before it. -/
theorem Segmentation.append {p q : List Char} {front back : List Segment}
    (hp : Segmentation p front) (hq : Segmentation q back)
    (h : ∀ s ∈ front.getLast?, s.StandsBefore q) : Segmentation (p ++ q) (front ++ back) := by
  cases hlast : front.getLast? with
  | none =>
    rw [List.getLast?_eq_none_iff] at hlast
    subst hlast
    cases hp
    exact hq
  | some s =>
    have hstands : s.StandsBefore q := h s hlast
    obtain ⟨first, rfl⟩ := List.getLast?_eq_some_iff.1 hlast
    rw [List.append_assoc]
    refine hp.extend (List.cons_ne_nil s []) ?_
    rw [List.flatMap_singleton]
    exact .cons hstands hq

/-- An open brace at the end of a pattern takes in what is written behind, up to a closing brace. -/
theorem Segmentation.append_dangling {p q : List Char} {front : List Segment} {key sub : List Char}
    (h : Segmentation p (front ++ [.dangling key sub])) (hq : '\x7d' ∉ q) :
    Segmentation (p ++ q) (front ++ [.dangling key (sub ++ q)]) := by
  obtain ⟨hkey, hsub, -⟩ := h.standsBefore_last
  refine h.extend (List.cons_ne_nil _ []) ?_
  have hstands : (Segment.dangling key (sub ++ q)).StandsBefore [] :=
    ⟨hkey, by simp [hsub, hq], rfl⟩
  have hone : Segmentation ((Segment.dangling key (sub ++ q)).source ++ [])
      [.dangling key (sub ++ q)] := .cons hstands .nil
  simpa [Segment.source] using hone

/-- Each part of the segments of a pattern is read as the segments of what it spells. -/
theorem Segmentation.of_append {pattern : List Char} {front back : List Segment}
    (h : Segmentation pattern (front ++ back)) :
    Segmentation (front.flatMap Segment.source) front ∧
      Segmentation (back.flatMap Segment.source) back := by
  induction front generalizing pattern with
  | nil =>
    rw [List.nil_append] at h
    refine ⟨.nil, ?_⟩
    rwa [h.flatMap_source]
  | cons s front ih =>
    rw [List.cons_append] at h
    cases h with
    | cons hstands hrest =>
      obtain ⟨hfront, hback⟩ := ih hrest
      refine ⟨.cons ?_ hfront, hback⟩
      rw [← hrest.flatMap_source, List.flatMap_append] at hstands
      exact hstands.of_append

/-! ## Items and text -/

section

variable (accepts : String → Bool)

/-- Segments that start with a placeholder leave the run of text that the segments before start with
as it is. -/
theorem splitRun_append {front back : List Segment} (h : ∀ s ∈ back.head?, s.char? = none) :
    splitRun accepts (front ++ back) =
      ((splitRun accepts front).1, (splitRun accepts front).2 ++ itemsOf accepts back) := by
  induction front with
  | nil =>
    cases back with
    | nil => rfl
    | cons s rest =>
      rw [List.nil_append, splitRun_cons_placeholder accepts (h s rfl),
        itemsOf_cons_placeholder accepts (h s rfl)]
      rfl
  | cons s front ih =>
    rw [List.cons_append]
    cases hs : s.char? with
    | some c => rw [splitRun_cons_text accepts hs, splitRun_cons_text accepts hs, ih]
    | none =>
      rw [splitRun_cons_placeholder accepts hs, splitRun_cons_placeholder accepts hs]
      unfold itemsOf at ih ⊢
      rw [ih, List.cons_append, List.append_assoc]

/-- The items of segments that start with a placeholder come behind those of the segments before. -/
theorem itemsOf_append {front back : List Segment} (h : ∀ s ∈ back.head?, s.char? = none) :
    itemsOf accepts (front ++ back) = itemsOf accepts front ++ itemsOf accepts back := by
  rw [itemsOf, splitRun_append accepts h, ← List.append_assoc]
  rfl

variable (scene : Scene)

/-- The text of items, one behind the other. -/
def textOf (items : List Item) : String := String.join (items.map (Item.render scene))

theorem textOf_cons (item : Item) (items : List Item) :
    textOf scene (item :: items) = item.render scene ++ textOf scene items :=
  String.join_cons

theorem textOf_append (items items' : List Item) :
    textOf scene (items ++ items') = textOf scene items ++ textOf scene items' := by
  rw [textOf, List.map_append, String.join_append]
  rfl

theorem textOf_literalOf (run : List Char) : textOf scene (literalOf run) = String.ofList run := by
  by_cases h : run = []
  · subst h
    rfl
  · rw [literalOf_of_ne_nil h, textOf_cons]
    exact String.append_empty

/-- Joining runs of text into literals does not show in the text. -/
theorem textOf_itemsOf (segments : List Segment) :
    textOf scene (itemsOf accepts segments) = textOf scene (segments.map (Segment.item accepts)) := by
  rw [itemsOf, textOf_append, textOf_literalOf]
  induction segments with
  | nil => exact String.append_empty
  | cons s rest ih =>
    rw [List.map_cons, textOf_cons, ← ih]
    cases hs : s.char? with
    | some c =>
      have hitem : (s.item accepts).render scene = String.ofList [c] := by
        cases s <;> cases hs <;> rfl
      rw [splitRun_cons_text accepts hs, hitem, ← String.append_assoc, ← String.ofList_append]
      rfl
    | none =>
      rw [splitRun_cons_placeholder accepts hs, textOf_cons, itemsOf, textOf_append,
        textOf_literalOf]
      exact String.empty_append

end

/-! ## Layouts -/

section

variable {accepts : String → Bool} {read : List Segment}

theorem Segmentation.items_compileFor {pattern : String} (h : Segmentation pattern.toList read) :
    (compileFor accepts pattern).items = itemsOf accepts read := by
  rw [Layout.items_compileFor, h.eq_segments]

theorem Segmentation.hasError_compileFor {pattern : String}
    (h : Segmentation pattern.toList read) :
    (compileFor accepts pattern).hasError = read.any (Segment.isFaulty accepts) := by
  rw [Layout.hasError_compileFor, h.eq_segments]

/-- A layout shows the segments of its pattern one by one. -/
theorem Segmentation.render_compileFor {pattern : String} (h : Segmentation pattern.toList read)
    (scene : Scene) :
    (compileFor accepts pattern).render scene =
      textOf scene (read.map (Segment.item accepts)) := by
  rw [← textOf_itemsOf, ← h.items_compileFor]
  rfl

/-- The same for a part of the segments of a pattern, as a pattern of its own. -/
theorem render_compileFor_spell (h : Segmentation (read.flatMap Segment.source) read)
    (scene : Scene) :
    (compileFor accepts (Segment.spell read)).render scene =
      textOf scene (read.map (Segment.item accepts)) := by
  have hspelled : Segmentation (Segment.spell read).toList read := by
    rwa [Segment.spell, String.toList_ofList]
  exact hspelled.render_compileFor scene

end

/-- A pattern and another one written behind it show what they show apart, and together are faulty if
one of them is. -/
structure Composes (accepts : String → Bool) (front back : String) : Prop where
  render : ∀ scene, (compileFor accepts (front ++ back)).render scene =
    (compileFor accepts front).render scene ++ (compileFor accepts back).render scene
  hasError : (compileFor accepts (front ++ back)).hasError =
    ((compileFor accepts front).hasError || (compileFor accepts back).hasError)

theorem Segmentation.composes {front back : String} {read : List Segment}
    (h : Segmentation front.toList read)
    (hlast : ∀ s ∈ read.getLast?, s.StandsBefore back.toList) (accepts : String → Bool) :
    Composes accepts front back := by
  have hback := segmentation_segments back.toList
  have hboth : Segmentation (front ++ back).toList (read ++ segments back.toList) := by
    rw [String.toList_append]
    exact h.append hback hlast
  constructor
  · intro scene
    rw [hboth.render_compileFor, h.render_compileFor, hback.render_compileFor, List.map_append,
      textOf_append]
  · rw [hboth.hasError_compileFor, h.hasError_compileFor, hback.hasError_compileFor,
      List.any_append]

/-- Layouts compose. Two patterns, one written behind the other, show what they show apart and are
faulty together if one of them is, provided that the first is empty or ends in text, in an escape or
with a closing brace, or that the second has nothing that the bare placeholder at the end of the first
could take in. An open brace at the end of the first takes in the second if that has no closing brace:
the last item holds more than before, and the text stays what it was. And every segment of a pattern,
one that cannot be honoured included, leaves what is shown for the segments before it and behind it as
it is when these are patterns of their own. -/
theorem layouts_compose (accepts : String → Bool) {front : String} {read : List Segment}
    (h : Segmentation front.toList read) :
    (∀ back, (∀ s ∈ read.getLast?, s.isClosed = true) → Composes accepts front back) ∧
    (∀ back key, read.getLast? = some (.bare key) →
      (∀ c ∈ back.toList.head?,
        ¬ c.isAlpha ∧ c ≠ '\x7b' ∧ c ≠ '\x7d' ∧ (key = [] → c ≠ '%')) →
      Composes accepts front back) ∧
    (∀ back key sub, read.getLast? = some (.dangling key sub) → '\x7d' ∉ back.toList →
      (∃ items,
        (compileFor accepts front).items = items ++ [.unfinished (String.ofList sub)] ∧
        (compileFor accepts (front ++ back)).items =
          items ++ [.unfinished (String.ofList (sub ++ back.toList))]) ∧
      (compileFor accepts (front ++ back)).hasError = true ∧
      ∀ scene, (compileFor accepts (front ++ back)).render scene =
        (compileFor accepts front).render scene) ∧
    (∀ before s after, read = before ++ s :: after → ∀ scene,
      (compileFor accepts front).render scene =
        (compileFor accepts (Segment.spell before)).render scene ++ (s.item accepts).render scene
          ++ (compileFor accepts (Segment.spell after)).render scene) := by
  refine ⟨fun back hclosed => ?_, fun back key hlast hback => ?_,
    fun back key sub hlast hback => ?_, fun before s after hread scene => ?_⟩
  · refine h.composes (fun s hs => ?_) accepts
    obtain ⟨front, rfl⟩ := List.getLast?_eq_some_iff.1 hs
    exact h.standsBefore_last.of_isClosed (hclosed s hs) back.toList
  · refine h.composes (fun s hs => ?_) accepts
    rw [hlast] at hs
    cases hs
    obtain ⟨front, rfl⟩ := List.getLast?_eq_some_iff.1 hlast
    refine ⟨h.standsBefore_last.1, fun c hc => ?_⟩
    obtain ⟨halpha, hopen, hclose, hpercent⟩ := hback c hc
    exact ⟨by simpa [isKeyChar, hclose] using halpha, hopen, hpercent⟩
  · obtain ⟨front, rfl⟩ := List.getLast?_eq_some_iff.1 hlast
    have hgrown := h.append_dangling hback
    rw [← String.toList_append] at hgrown
    have hitems : ∀ sub', itemsOf accepts (front ++ [.dangling key sub']) =
        itemsOf accepts front ++ [.unfinished (String.ofList sub')] := by
      intro sub'
      rw [itemsOf_append accepts (by rintro s ⟨⟩; rfl), itemsOf_cons_placeholder accepts rfl]
      rfl
    refine ⟨⟨itemsOf accepts front, ?_, ?_⟩, ?_, fun scene => ?_⟩
    · rw [h.items_compileFor, hitems]
    · rw [hgrown.items_compileFor, hitems]
    · rw [hgrown.hasError_compileFor, List.any_append]
      exact Bool.or_true _
    · rw [hgrown.render_compileFor, h.render_compileFor, List.map_append, List.map_append,
        textOf_append, textOf_append]
      rfl
  · subst hread
    obtain ⟨hbefore, hrest⟩ := h.of_append
    have hsplit : Segmentation _ ([s] ++ after) := hrest
    have hafter := hsplit.of_append.2
    rw [h.render_compileFor, render_compileFor_spell hbefore, render_compileFor_spell hafter,
      List.map_append, List.map_cons, textOf_append, textOf_cons, String.append_assoc]

/-- A doubled percent sign, a bare placeholder before a space, an unknown key and an open brace. -/
theorem layouts_compose_of_unknown_key :
    let front := "%c %q\x7ba\x7d%d\x7b%H"
    let compiled := compileFor Date.accepts
    Composes Date.accepts "5%%" "%m" ∧ Composes Date.accepts "%m" " %p" ∧
      ∀ scene,
        (compiled (front ++ ":%M%p")).render scene = (compiled front).render scene ∧
        (compiled front).render scene =
          (compiled "%c ").render scene ++ "<<error_format %q>>"
            ++ (compiled "%d\x7b%H").render scene := by
  intro front compiled
  have hpercent : Segmentation "5%%".toList [.text '5', .escape] :=
    segmentation_iff.2 (by decide +kernel)
  have hmessage : Segmentation "%m".toList [.bare ['m']] := segmentation_iff.2 (by decide +kernel)
  have hfront : Segmentation front.toList
      [.bare ['c'], .text ' ', .braced ['q'] ['a'], .dangling ['d'] ['%', 'H']] :=
    segmentation_iff.2 (by decide +kernel)
  obtain ⟨hclosed, -⟩ := layouts_compose Date.accepts hpercent
  obtain ⟨-, hbare, -⟩ := layouts_compose Date.accepts hmessage
  obtain ⟨-, -, hopen, hsplit⟩ := layouts_compose Date.accepts hfront
  have hspace : ∀ c ∈ " %p".toList.head?,
      ¬ c.isAlpha ∧ c ≠ '\x7b' ∧ c ≠ '\x7d' ∧ (['m'] = [] → c ≠ '%') := by
    intro c hc
    have hfirst : " %p".toList.head? = some ' ' := rfl
    obtain rfl := Option.some.inj (hfirst.symm.trans hc)
    decide
  refine ⟨hclosed "%m" (by decide), hbare " %p" ['m'] rfl hspace, fun scene => ⟨?_, ?_⟩⟩
  · exact (hopen ":%M%p" ['d'] ['%', 'H'] rfl (by decide +kernel)).2.2 scene
  · exact hsplit [.bare ['c'], .text ' '] (.braced ['q'] ['a']) [.dangling ['d'] ['%', 'H']] rfl scene

end EventLog.Layout
