/-!
# Segments of a layout pattern

A pattern is made of segments: a character other than `%`, the escape `%%`, a placeholder with its
key, a placeholder with a key and a sub-format in braces, and, only at the end, a placeholder whose
brace is never closed. A key is made of ASCII letters and closing braces.
-/

namespace EventLog.Layout

/-- One segment of a pattern. -/
inductive Segment where
  | text (c : Char)
  | escape
  | bare (key : List Char)
  | braced (key sub : List Char)
  | dangling (key sub : List Char)
  deriving DecidableEq

/-- The characters that a key is made of. -/
def isKeyChar (c : Char) : Bool := c.isAlpha || c == '}'

namespace Segment

/-- The characters that a segment is written with. -/
def source : Segment → List Char
  | text c => [c]
  | escape => ['%', '%']
  | bare key => '%' :: key
  | braced key sub => '%' :: key ++ '\x7b' :: sub ++ ['\x7d']
  | dangling key sub => '%' :: key ++ '\x7b' :: sub

theorem source_ne_nil (s : Segment) : s.source ≠ [] := by cases s <;> simp [source]

end Segment

end EventLog.Layout
