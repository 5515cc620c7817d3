import EventLog.Layout.Basic
import EventLog.Proofs.Layout.Scan

/-!
# What a pattern compiles to

`Compiles` says which items a sequence of segments stands for: each longest run of text is one
literal, each placeholder is one item by its key and sub-format. `Placeholder` is the table of the
placeholders, with what is shown for those that cannot be honoured.

`compileFor_iff_grammar` joins this to the grammar of patterns: every pattern has one segmentation,
and its layout has the items that this segmentation stands for, and is faulty exactly if one of its
placeholders is. The calendar may accept any date patterns whatsoever.
-/

namespace EventLog.Layout

/-- The date pattern that a sub-format stands for: an empty one for the default. -/
def datePattern (sub : List Char) : String :=
  if sub = [] then defaultDatePattern else String.ofList sub

section

variable (accepts : String → Bool)

/-- What a placeholder with a key and a sub-format stands for, and whether it cannot be honoured. -/
inductive Placeholder : List Char → List Char → Item → Bool → Prop
  | field (f : Field) (sub : List Char) : Placeholder [f.key] sub (.field f) false
  | date {sub : List Char} : accepts (datePattern sub) = true →
      Placeholder ['d'] sub (.dateTime (datePattern sub)) false
  | refused {sub : List Char} : accepts (datePattern sub) = false →
      Placeholder ['d'] sub
        (.literal ("<<error_format %d\x7b" ++ datePattern sub ++ "\x7d>>")) true
  | unknown {key : List Char} (sub : List Char) : key ≠ ['d'] → (∀ f : Field, key ≠ [f.key]) →
      Placeholder key sub
        (.literal ("<<error_format %" ++ (if key = [] then "null" else String.ofList key) ++ ">>"))
        true

/-- What a segment that is no text stands for, and whether it cannot be honoured. -/
inductive Segment.Means : Segment → Item → Bool → Prop
  | bare {key : List Char} {item : Item} {faulty : Bool} :
      Placeholder accepts key [] item faulty → Means (.bare key) item faulty
  | braced {key sub : List Char} {item : Item} {faulty : Bool} :
      Placeholder accepts key sub item faulty → Means (.braced key sub) item faulty
  | dangling (key sub : List Char) :
      Means (.dangling key sub) (.unfinished (String.ofList sub)) true

/-- The items that segments stand for, in order. A literal is a whole run of text: what stands
behind it is no text. -/
inductive Compiles : List Segment → List Item → Prop
  | nil : Compiles [] []
  | run {run rest : List Segment} {items : List Item} : run ≠ [] →
      (∀ s ∈ run, s.char?.isSome) → (∀ s ∈ rest.head?, s.char? = none) → Compiles rest items →
      Compiles (run ++ rest) (.literal (String.ofList (run.filterMap Segment.char?)) :: items)
  | placeholder {s : Segment} {item : Item} {faulty : Bool} {rest : List Segment}
      {items : List Item} :
      s.Means accepts item faulty → Compiles rest items → Compiles (s :: rest) (item :: items)

end

/-! ## Placeholders -/

theorem Field.key_ne_date (f : Field) : f.key ≠ 'd' := by cases f <;> decide

theorem Field.ofKey?_eq_some_iff {key : List Char} {f : Field} :
    Field.ofKey? key = some f ↔ key = [f.key] := by
  constructor
  · intro h
    simpa using List.find?_some h
  · rintro rfl
    exact Field.ofKey?_key f

theorem Field.ofKey?_eq_none_iff {key : List Char} :
    Field.ofKey? key = none ↔ ∀ f : Field, key ≠ [f.key] := by
  rw [Option.eq_none_iff_forall_ne_some]
  exact forall_congr' fun f => not_congr Field.ofKey?_eq_some_iff

section

variable {accepts : String → Bool}

namespace Item

theorem ofDate_ofList (sub : List Char) :
    ofDate accepts (String.ofList sub) =
      if accepts (datePattern sub) then dateTime (datePattern sub)
      else mark ("d\x7b" ++ datePattern sub ++ "\x7d") := by
  by_cases h : sub = []
  · subst h
    rfl
  · have hs : String.ofList sub ≠ "" := fun he => h (String.ofList_eq_empty_iff.1 he)
    simp only [ofDate, datePattern, if_neg h, if_neg hs]

/-- The literal for a date pattern that is refused. -/
theorem mark_date (pattern : String) :
    mark ("d\x7b" ++ pattern ++ "\x7d") = literal ("<<error_format %d\x7b" ++ pattern ++ "\x7d>>") := by
  have hstart : "<<error_format %d\x7b" = "<<error_format %" ++ "d\x7b" := by decide
  have hend : "\x7d>>" = "\x7d" ++ ">>" := by decide
  rw [mark, hstart, hend]
  simp only [String.append_assoc]

theorem resolve_field (f : Field) (sub : List Char) :
    resolve accepts [f.key] sub = (field f, false) := by
  have hne : [f.key] ≠ ['d'] := fun h => f.key_ne_date (List.cons.inj h).1
  rw [resolve, ofKey?, if_neg hne, Field.ofKey?_key]
  rfl

theorem resolve_date (sub : List Char) :
    resolve accepts ['d'] sub =
      if accepts (datePattern sub) then (dateTime (datePattern sub), false)
      else (literal ("<<error_format %d\x7b" ++ datePattern sub ++ "\x7d>>"), true) := by
  rw [resolve, ofKey?, if_pos rfl, ofDate_ofList, mark_date]
  by_cases h : accepts (datePattern sub)
  · simp only [if_pos h]
    rfl
  · simp only [if_neg h]
    rfl

theorem resolve_unknown {key : List Char} (hd : key ≠ ['d']) (hf : ∀ f : Field, key ≠ [f.key])
    (sub : List Char) : resolve accepts key sub = (unknownKey key, true) := by
  rw [resolve, ofKey?, if_neg hd, Field.ofKey?_eq_none_iff.2 hf]
  rfl

end Item

/-- The table of placeholders is what `resolve` computes. -/
theorem placeholder_iff {key sub : List Char} {item : Item} {faulty : Bool} :
    Placeholder accepts key sub item faulty ↔ Item.resolve accepts key sub = (item, faulty) := by
  constructor
  · intro h
    cases h with
    | field f => exact Item.resolve_field f sub
    | date h => rw [Item.resolve_date, if_pos h]
    | refused h => rw [Item.resolve_date, if_neg (by simp [h])]
    | unknown _ hd hf => rw [Item.resolve_unknown hd hf]; rfl
  · intro h
    by_cases hd : key = ['d']
    · subst hd
      rw [Item.resolve_date] at h
      cases ha : accepts (datePattern sub) with
      | true =>
        rw [if_pos ha] at h
        cases h
        exact .date ha
      | false =>
        rw [if_neg (by simp [ha])] at h
        cases h
        exact .refused ha
    · by_cases hf : ∃ f : Field, key = [f.key]
      · obtain ⟨f, rfl⟩ := hf
        rw [Item.resolve_field] at h
        cases h
        exact .field f sub
      · rw [not_exists] at hf
        rw [Item.resolve_unknown hd hf] at h
        cases h
        exact .unknown sub hd hf

namespace Segment

/-- A segment that is no text means its item, and nothing else. -/
theorem means_iff {s : Segment} {item : Item} {faulty : Bool} :
    s.Means accepts item faulty ↔
      s.char? = none ∧ s.item accepts = item ∧ s.isFaulty accepts = faulty := by
  cases s with
  | text c => exact ⟨nofun, fun h => by cases h.1⟩
  | escape => exact ⟨nofun, fun h => by cases h.1⟩
  | bare key =>
    constructor
    · rintro ⟨h⟩
      have hresolve := placeholder_iff.1 h
      exact ⟨rfl, congrArg Prod.fst hresolve, congrArg Prod.snd hresolve⟩
    · rintro ⟨-, rfl, rfl⟩
      exact .bare (placeholder_iff.2 rfl)
  | braced key sub =>
    constructor
    · rintro (_ | h)
      have hresolve := placeholder_iff.1 h
      exact ⟨rfl, congrArg Prod.fst hresolve, congrArg Prod.snd hresolve⟩
    · rintro ⟨-, rfl, rfl⟩
      exact .braced (placeholder_iff.2 rfl)
  | dangling key sub =>
    constructor
    · rintro ⟨⟩
      exact ⟨rfl, rfl, rfl⟩
    · rintro ⟨-, rfl, rfl⟩
      exact .dangling key sub

end Segment

end

/-! ## The items of segments -/

/-- The literal of a run of text, unless the run is empty. -/
def literalOf (run : List Char) : List Item :=
  if run = [] then [] else [.literal (String.ofList run)]

theorem literalOf_of_ne_nil {run : List Char} (h : run ≠ []) :
    literalOf run = [.literal (String.ofList run)] := if_neg h

section

variable (accepts : String → Bool)

/-- The run of text that the segments start with, and the items after it. -/
def splitRun : List Segment → List Char × List Item
  | [] => ([], [])
  | s :: rest =>
    match s.char? with
    | some c => (c :: (splitRun rest).1, (splitRun rest).2)
    | none => ([], s.item accepts :: (literalOf (splitRun rest).1 ++ (splitRun rest).2))

/-- The items of a sequence of segments. -/
def itemsOf (segments : List Segment) : List Item :=
  literalOf (splitRun accepts segments).1 ++ (splitRun accepts segments).2

theorem splitRun_cons_text {s : Segment} {c : Char} (h : s.char? = some c) (rest : List Segment) :
    splitRun accepts (s :: rest)
      = (c :: (splitRun accepts rest).1, (splitRun accepts rest).2) := by
  rw [splitRun, h]

theorem splitRun_cons_placeholder {s : Segment} (h : s.char? = none) (rest : List Segment) :
    splitRun accepts (s :: rest) = ([], s.item accepts :: itemsOf accepts rest) := by
  rw [splitRun, h]
  rfl

/-- A placeholder before the other segments stands for its item before theirs. -/
theorem itemsOf_cons_placeholder {s : Segment} (h : s.char? = none) (rest : List Segment) :
    itemsOf accepts (s :: rest) = s.item accepts :: itemsOf accepts rest := by
  rw [itemsOf, splitRun_cons_placeholder accepts h]
  rfl

theorem splitRun_run_append {run : List Segment} (h : ∀ s ∈ run, s.char?.isSome)
    (rest : List Segment) :
    splitRun accepts (run ++ rest)
      = (run.filterMap Segment.char? ++ (splitRun accepts rest).1, (splitRun accepts rest).2) := by
  induction run with
  | nil => rfl
  | cons s run ih =>
    obtain ⟨c, hc⟩ := Option.isSome_iff_exists.1 (h s List.mem_cons_self)
    have hrun : ∀ t ∈ run, t.char?.isSome := fun t ht => h t (List.mem_cons_of_mem s ht)
    rw [List.cons_append, splitRun_cons_text accepts hc, ih hrun, List.filterMap_cons_some hc]
    rfl

/-- A longest run of text before the other segments stands for its literal before their items. -/
theorem itemsOf_run_append {run rest : List Segment} (hne : run ≠ [])
    (h : ∀ s ∈ run, s.char?.isSome) (hrest : ∀ s ∈ rest.head?, s.char? = none) :
    itemsOf accepts (run ++ rest)
      = .literal (String.ofList (run.filterMap Segment.char?)) :: itemsOf accepts rest := by
  have hstart : (splitRun accepts rest).1 = [] := by
    cases rest with
    | nil => rfl
    | cons s more => rw [splitRun_cons_placeholder accepts (hrest s rfl)]
  have htext : run.filterMap Segment.char? ≠ [] := by
    cases run with
    | nil => exact absurd rfl hne
    | cons s more =>
      obtain ⟨c, hc⟩ := Option.isSome_iff_exists.1 (h s List.mem_cons_self)
      rw [List.filterMap_cons_some hc]
      exact List.cons_ne_nil _ _
  rw [itemsOf, splitRun_run_append accepts h, itemsOf, hstart, List.append_nil,
    literalOf_of_ne_nil htext]
  rfl

/-- Some items are what the segments stand for: text joins the run behind it, if there is one. -/
theorem exists_compiles (segments : List Segment) : ∃ items, Compiles accepts segments items := by
  induction segments with
  | nil => exact ⟨[], .nil⟩
  | cons s rest ih =>
    obtain ⟨items, hrest⟩ := ih
    cases hs : s.char? with
    | none => exact ⟨_, .placeholder (Segment.means_iff.2 ⟨hs, rfl, rfl⟩) hrest⟩
    | some c =>
      have hone : ∀ t ∈ [s], t.char?.isSome := by simp [hs]
      cases hrest with
      | nil => exact ⟨_, .run (List.cons_ne_nil s []) hone (by simp) .nil⟩
      | run hne hrun hend hrest =>
        refine ⟨_, .run (List.cons_ne_nil s _) ?_ hend hrest⟩
        exact List.forall_mem_cons.2 ⟨hone s List.mem_cons_self, hrun⟩
      | placeholder hmeans hrest =>
        refine ⟨_, .run (List.cons_ne_nil s []) hone ?_ (.placeholder hmeans hrest)⟩
        rintro t ⟨⟩
        exact (Segment.means_iff.1 hmeans).1

/-- Segments stand for their items, and for no others. -/
theorem compiles_iff {segments : List Segment} {items : List Item} :
    Compiles accepts segments items ↔ items = itemsOf accepts segments := by
  have hunique : ∀ {segments items}, Compiles accepts segments items →
      items = itemsOf accepts segments := by
    intro segments items h
    induction h with
    | nil => rfl
    | run hne hrun hend _ ih => rw [itemsOf_run_append accepts hne hrun hend, ih]
    | placeholder hmeans _ ih =>
      obtain ⟨hs, rfl, -⟩ := Segment.means_iff.1 hmeans
      rw [itemsOf_cons_placeholder accepts hs, ih]
  constructor
  · exact hunique
  · rintro rfl
    obtain ⟨items, h⟩ := exists_compiles accepts segments
    rwa [← hunique h]

end

/-! ## What the pass makes of segments -/

namespace Draft

variable {accepts : String → Bool}

theorem literal_flush (d : Draft) : d.flush.literal = "" := by
  unfold flush
  split
  · assumption
  · rfl

theorem hasError_flush (d : Draft) : d.flush.hasError = d.hasError := by
  unfold flush
  split <;> rfl

theorem items_flush (d : Draft) :
    d.flush.items.toList = d.items.toList ++ literalOf d.literal.toList := by
  unfold flush literalOf
  by_cases h : d.literal = ""
  · simp [h]
  · simp [h]

/-- Segments taken in one after the other leave the items that they stand for, the text that waited
before them being part of their first run. -/
theorem items_flush_foldl_add (segments : List Segment) (d : Draft) :
    (segments.foldl (add accepts) d).flush.items.toList
      = d.items.toList ++ (literalOf (d.literal.toList ++ (splitRun accepts segments).1)
          ++ (splitRun accepts segments).2) := by
  induction segments generalizing d with
  | nil => rw [List.foldl_nil, items_flush, splitRun, List.append_nil, List.append_nil]
  | cons s rest ih =>
    rw [List.foldl_cons, ih]
    cases hs : s.char? with
    | some c => simp [add, hs, splitRun_cons_text accepts hs]
    | none =>
      simp [add, hs, splitRun_cons_placeholder accepts hs, literal_flush, items_flush, itemsOf]

theorem hasError_foldl_add (segments : List Segment) (d : Draft) :
    (segments.foldl (add accepts) d).hasError
      = (d.hasError || segments.any (Segment.isFaulty accepts)) := by
  induction segments generalizing d with
  | nil => simp
  | cons s rest ih =>
    rw [List.foldl_cons, ih, List.any_cons, ← Bool.or_assoc]
    congr 1
    cases s with
    | text c => exact (Bool.or_false _).symm
    | escape => exact (Bool.or_false _).symm
    | _ => rfl

end Draft

/-! ## The layout of a pattern -/

theorem items_compileFor (accepts : String → Bool) (pattern : String) :
    (compileFor accepts pattern).items = itemsOf accepts (segments pattern.toList) := by
  rw [compileFor, scan_eq, Draft.items_flush_foldl_add]
  rfl

theorem hasError_compileFor (accepts : String → Bool) (pattern : String) :
    (compileFor accepts pattern).hasError
      = (segments pattern.toList).any (Segment.isFaulty accepts) := by
  rw [compileFor, scan_eq, Draft.hasError_flush, Draft.hasError_foldl_add]
  rfl

/-- Compiling follows the grammar. A pattern has one segmentation and no other, whose segments spell
it. The items are exactly those that the segments stand for, and the layout is faulty exactly if
some segment is a placeholder that cannot be honoured. -/
theorem compileFor_iff_grammar (accepts : String → Bool) (pattern : String) :
    ∃ segments : List Segment,
      (∀ read, Segmentation pattern.toList read ↔ read = segments) ∧
      segments.flatMap Segment.source = pattern.toList ∧
      (∀ items, Compiles accepts segments items ↔ items = (compileFor accepts pattern).items) ∧
      ((compileFor accepts pattern).hasError = true ↔
        ∃ s ∈ segments, ∃ item, s.Means accepts item true) := by
  refine ⟨segments pattern.toList, fun _ => segmentation_iff, ?_, ?_, ?_⟩
  · exact (segmentation_segments pattern.toList).flatMap_source
  · intro items
    rw [items_compileFor]
    exact compiles_iff accepts
  · rw [hasError_compileFor, List.any_eq_true]
    refine exists_congr fun s => and_congr_right fun _ => ?_
    constructor
    · intro h
      refine ⟨s.item accepts, Segment.means_iff.2 ⟨?_, rfl, h⟩⟩
      cases s <;> first | rfl | simp [Segment.isFaulty] at h
    · rintro ⟨item, h⟩
      exact (Segment.means_iff.1 h).2.2

end EventLog.Layout
