import EventLog.Names
import EventLog.Text.Quoted
import EventLog.Text.Shortest

/-!
# Documents

Configurations are read from documents: nothing, truth values, whole and other numbers, text,
sequences and maps. The keys of a map are different and stand in rising order; `Document.ofFields`
sorts them, and of two fields with one key the later counts.
-/

namespace EventLog.Config

/-- A tree of plain data. -/
inductive Document where
  | null
  | bool (value : Bool)
  | int (value : Int)
  | float (value : Float)
  | str (value : String)
  | seq (elements : List Document)
  | map (fields : List (String × Document))
  deriving Inhabited

namespace Document

/-- The map of some fields. -/
def ofFields (fields : List (String × Document)) : Document :=
  map (Names.ofList fields)

/-- The value under a key of a map. -/
def get? (d : Document) (key : String) : Option Document :=
  match d with
  | map fields => Names.find? fields key
  | _ => none

/-- A short description of what a document is. -/
def describe : Document → String
  | null => "null"
  | bool value => "boolean `" ++ (if value then "true" else "false") ++ "`"
  | int value => "integer `" ++ toString value ++ "`"
  | float value => "floating point `" ++ Text.decimalText value ++ "`"
  | str value => "string " ++ Text.quoted value
  | seq _ => "sequence"
  | map _ => "map"

end Document

end EventLog.Config
