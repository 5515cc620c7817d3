/-!
# Transcripts

What a demonstration writes depends on the clock, on the numbers of threads and on where its source
text lies. A transcript shows the output with these parts masked or cut, and brings neighbouring
lines of threads that run side by side into an order of their own.
-/

namespace EventLog.Demo

/-- Whether a text has a shape: `d` stands for a digit, everything else for itself. -/
def hasShape (shape text : List Char) : Bool :=
  match shape, text with
  | [], [] => true
  | s :: shape, c :: text => (if s = 'd' then c.isDigit else s = c) && hasShape shape text
  | _, _ => false

/-- Whether a text has no characters but digits. -/
def isDigits (text : String) : Bool := text.toList.all Char.isDigit

/-- Masks the date and thread number, or the time of day, that the fields of a line start with. -/
def maskFields (fields : List String) : List String :=
  match fields with
  | [] => []
  | first :: rest =>
    if hasShape "dddd-dd-dd dd:dd:dd".toList first.toList then
      match rest with
      | second :: third :: more =>
        "<date>" :: (if isDigits second then "<tid>" else second) :: third :: more
      | _ => "<date>" :: rest
    else if hasShape "dd:dd:dd".toList first.toList then "<time>" :: rest
    else fields

/-- The characters of the name of a demonstration. -/
def isNameChar (c : Char) : Bool := c.isAlphanum || c = '_'

/-- Whether a text starts with a call site of a demonstration: its source file and a line. -/
def startsWithSite (text : List Char) : Bool :=
  let name := text.drop "demos/".length
  let line := name.dropWhile isNameChar
  "demos/".toList.isPrefixOf text && name.head?.any isNameChar && ".rs:".toList.isPrefixOf line
    && (line.drop ".rs:".length).head?.any Char.isDigit

/-- The text from the first call site on, if there is one. -/
def fromSite? : List Char → Option (List Char)
  | [] => none
  | c :: rest => if startsWithSite (c :: rest) then some (c :: rest) else fromSite? rest

/-- Cuts the path before a call site. -/
def cutPath (field : String) : String :=
  match fromSite? field.toList with
  | some text => String.ofList text
  | none => field

/-- A pair of thread numbers at the start of a text, and what follows it. -/
def numberPair? (text : List Char) : Option (List Char × List Char × List Char) :=
  let start := "id: ".toList
  let between := " this.id: ".toList
  if start.isPrefixOf text then
    let rest := text.drop start.length
    let first := rest.takeWhile Char.isDigit
    let rest := rest.dropWhile Char.isDigit
    if first ≠ [] ∧ between.isPrefixOf rest then
      let rest := rest.drop between.length
      let second := rest.takeWhile Char.isDigit
      if second ≠ [] then some (first, second, rest.dropWhile Char.isDigit) else none
    else none
  else none

/-- Masks the pairs of thread numbers in a text; `fuel` bounds the characters looked at. -/
def maskPairs : Nat → List Char → List Char
  | 0, text => text
  | _, [] => []
  | fuel + 1, c :: rest =>
    match numberPair? (c :: rest) with
    | some (first, second, after) =>
      "id: <id> this.id: ".toList
        ++ (if first = second then "<same id>" else "<other id>").toList ++ maskPairs fuel after
    | none => c :: maskPairs fuel rest

/-- Masks a line. -/
def maskLine (line : String) : String :=
  let masked := "\t".intercalate ((maskFields (line.splitOn "\t")).map cutPath)
  String.ofList (maskPairs masked.length masked.toList)

/-- Whether a line was written by one of several threads: a field of it starts with a name. -/
def isThreadLine (line : String) : Bool :=
  (line.splitOn "\t").any fun field => field.startsWith "name: "

/-- Sorts each group of neighbouring lines of threads. `group` holds the one being gathered. -/
def sortThreadLines (group : List String) : List String → List String
  | [] => group.mergeSort
  | line :: rest =>
    if isThreadLine line then sortThreadLines (line :: group) rest
    else group.mergeSort ++ line :: sortThreadLines [] rest

/-- The transcript of a text. -/
def transcript (text : String) : String :=
  "\n".intercalate (sortThreadLines [] ((text.splitOn "\n").map maskLine))

end EventLog.Demo
