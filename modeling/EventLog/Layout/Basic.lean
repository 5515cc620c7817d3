import EventLog.Layout.Scan

/-!
# Compiled layouts

`compile` turns a pattern into a layout once, and `Layout.render` shows events by it. Compiling
never fails: what cannot be honoured shows as a marker inside the text, and `hasError` tells that
there is one.

Which date patterns can be honoured is up to a `Calendar`. What compiles patterns takes it as an
instance; the one that dates are shown with is `Date.accepts`.
-/

namespace EventLog

/-- Which date patterns dates can be shown with: at least the one of a date without a pattern of its
own, and the one in the pattern of a logger that was given none. -/
class Calendar where
  accepts : String → Bool
  accepts_bare : accepts Layout.defaultDatePattern = true
  accepts_stamp : accepts "%Y-%m-%d %H:%M:%S" = true

/-- The calendar that dates are shown with. -/
instance : Calendar where
  accepts := Date.accepts
  accepts_bare := by decide +kernel
  accepts_stamp := by decide +kernel

/-- A compiled pattern. -/
structure Layout where
  pattern : String
  items : List Layout.Item
  /-- Whether some placeholder could not be honoured. -/
  hasError : Bool
  deriving DecidableEq

namespace Layout

/-- The pattern of a logger that was given none. -/
def defaultPattern : String :=
  "%d\x7b%Y-%m-%d %H:%M:%S\x7d%T%t%T%F%T[%p]%T[%c]%T%f:%l%T%m%n"

/-- Compiles a pattern, given which date patterns the calendar can compile. -/
def compileFor (accepts : String → Bool) (pattern : String) : Layout :=
  let draft := scan accepts pattern.toList.toArray
  { pattern
    items := draft.items.toList
    hasError := draft.hasError }

/-- Compiles a pattern. -/
def compile [Calendar] (pattern : String) : Layout := compileFor Calendar.accepts pattern

instance : Inhabited Layout := ⟨compile defaultPattern⟩

/-- Shows the event of a scene. -/
def render (layout : Layout) (scene : Scene) : String :=
  String.join (layout.items.map (Item.render scene))

end Layout

end EventLog
