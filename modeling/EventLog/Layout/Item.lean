import EventLog.Date.Render
import EventLog.Event
import EventLog.Layout.Segment

/-!
# Items of a compiled layout

A layout is compiled into items. Each placeholder becomes one item, by its key; each maximal run of
text between placeholders becomes one literal. A placeholder that cannot be honoured becomes a
literal that shows it (an unknown key, a date pattern that is refused) or the marker for an
unfinished placeholder, and makes the pattern faulty.
-/

namespace EventLog.Layout

/-- The date pattern of `%d` when it has none of its own. -/
def defaultDatePattern : String := "%Y:%m:%d %H:%M:%S"

/-- What is shown in the place of an unfinished placeholder. -/
def unfinishedMarker : String := "<<pattern_error>>"

/-- The parts of an event that a placeholder without options shows, and the two blanks. -/
inductive Field where
  | message | level | elapse | loggerName | threadId | fiberId | fileName | line | tab | newLine
  deriving DecidableEq

/-- The key of a field. -/
def Field.key : Field → Char
  | .message => 'm'
  | .level => 'p'
  | .elapse => 'r'
  | .loggerName => 'c'
  | .threadId => 't'
  | .fiberId => 'F'
  | .fileName => 'f'
  | .line => 'l'
  | .tab => 'T'
  | .newLine => 'n'

/-- The fields. -/
def Field.all : List Field :=
  [.message, .level, .elapse, .loggerName, .threadId, .fiberId, .fileName, .line, .tab, .newLine]

theorem Field.mem_all (f : Field) : f ∈ Field.all := by cases f <;> simp [Field.all]

/-- The field with a key. -/
def Field.ofKey? (key : List Char) : Option Field := Field.all.find? fun f => key == [f.key]

theorem Field.ofKey?_key (f : Field) : Field.ofKey? [f.key] = some f := by cases f <;> decide

/-- One part of a compiled layout. -/
inductive Item where
  | literal (text : String)
  | field (field : Field)
  | dateTime (pattern : String)
  /-- An unfinished placeholder, with the sub-format read so far. -/
  | unfinished (sub : String)
  deriving DecidableEq

/-- What a rendering depends on: the zone, the logger called, the level passed, the event. -/
structure Scene where
  /-- Seconds east of Greenwich. -/
  east : Int
  logger : String
  level : Level
  event : Event

/-- The text of a field. -/
def Field.render (scene : Scene) : Field → String
  | .message => scene.event.message
  | .level => scene.level.name
  | .elapse => toString scene.event.stamp.elapse
  | .loggerName => scene.logger
  | .threadId => toString scene.event.stamp.thread
  | .fiberId => toString scene.event.stamp.fiber
  | .fileName => scene.event.file
  | .line => toString scene.event.line
  | .tab => "\t"
  | .newLine => "\n"

namespace Item

/-- The text of an item. -/
def render (scene : Scene) : Item → String
  | literal text => text
  | field f => f.render scene
  | dateTime pattern => Date.dateText scene.east pattern scene.event.stamp.time
  | unfinished _ => unfinishedMarker

/-- The literal that shows a placeholder which cannot be honoured. -/
def mark (shown : String) : Item := literal ("<<error_format %" ++ shown ++ ">>")

/-- The literal for an unknown key. -/
def unknownKey (key : List Char) : Item :=
  mark (if key = [] then "null" else String.ofList key)

/-- Whether an item is a literal. -/
def isLiteral : Item → Bool
  | literal _ => true
  | _ => false

end Item

/-! ## Placeholders

Which date patterns can be compiled is up to the calendar, so everything from here on takes that as
a parameter. `Date.accepts` is the calendar that layouts are shown with.
-/

section

variable (accepts : String → Bool)

namespace Item

/-- The item of `%d` with a sub-format. -/
def ofDate (sub : String) : Item :=
  let pattern := if sub = "" then defaultDatePattern else sub
  if accepts pattern then dateTime pattern else mark ("d\x7b" ++ pattern ++ "\x7d")

/-- The item of a key with a sub-format, if the key is known. -/
def ofKey? (key sub : List Char) : Option Item :=
  if key = ['d'] then some (ofDate accepts (String.ofList sub))
  else (Field.ofKey? key).map field

/-- The item of a placeholder, and whether the placeholder cannot be honoured. A known key gives a
literal only where its sub-format is refused. -/
def resolve (key sub : List Char) : Item × Bool :=
  match ofKey? accepts key sub with
  | some item => (item, item.isLiteral)
  | none => (unknownKey key, true)

end Item

namespace Segment

/-- The character that a segment stands for, if it stands for text. -/
def char? : Segment → Option Char
  | text c => some c
  | escape => some '%'
  | _ => none

/-- The item that a placeholder stands for, or the literal of a single character. -/
def item : Segment → Item
  | text c => .literal c.toString
  | escape => .literal "%"
  | bare key => (Item.resolve accepts key []).1
  | braced key sub => (Item.resolve accepts key sub).1
  | dangling _ sub => .unfinished (String.ofList sub)

/-- Whether a segment is a placeholder that cannot be honoured: an unknown key, a refused date
pattern, or an unfinished one. -/
def isFaulty : Segment → Bool
  | text _ => false
  | escape => false
  | bare key => (Item.resolve accepts key []).2
  | braced key sub => (Item.resolve accepts key sub).2
  | dangling _ _ => true

end Segment

end

end EventLog.Layout
