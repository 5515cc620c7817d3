import EventLog.Fault.Numbers
import EventLog.Text.Quoted

/-!
# Faults of the outside world

A fault is the reason why a file, a terminal or the operating system refused something: an error
number of the system, or a kind and a text, given by whoever noticed it. A number has its kind by
itself (`osKind`).
-/

namespace EventLog

/-- What a fault is about, if no error number tells it. -/
inductive Fault.Kind where
  | invalidInput
  | other
  deriving DecidableEq

/-- Why an operation of the outside world failed. -/
inductive Fault where
  | os (code : Int)
  /-- What the interface to the system refuses before it asks the system. -/
  | refused (kind : Fault.Kind) (reason : String)
  /-- What anyone else noticed. -/
  | custom (kind : Fault.Kind) (reason : String)
  deriving DecidableEq

namespace Fault

/-- A fault of no kind in particular. -/
def other (reason : String) : Fault := .custom .other reason

/-- Nothing is there under the name. -/
def notFound : Fault := .os 2

/-- The name is taken. -/
def alreadyExists : Fault := .os 17

/-- Something that is no folder stands in the middle of a path. -/
def notAFolder : Fault := .os 20

/-- A folder stands where a file is needed. -/
def isAFolder : Fault := .os 21

/-- The device takes nothing more. -/
def deviceFull : Fault := .os 28

/-- A name is longer than the system allows. -/
def nameTooLong : Fault := .os 36

/-- The system itself uses what is to be moved or removed. -/
def busy : Fault := .os 16

/-- Something is to be moved to another volume. -/
def otherVolume : Fault := .os 18

/-- The name has no meaning for the operation. -/
def invalidArgument : Fault := .os 22

/-- A folder that is to be removed still has entries. -/
def folderNotEmpty : Fault := .os 39

/-- A path holds the character that ends paths. -/
def nulInPath : Fault := .refused .invalidInput "file name contained an unexpected NUL byte"

/-- A thread name holds the character that ends names. -/
def nulInThreadName : Fault :=
  .custom .invalidInput "thread name may not contain interior NUL bytes"

/-- The name of a kind. -/
def Kind.name : Kind → String
  | invalidInput => "InvalidInput"
  | other => "Other"

/-- The name of the kind of a fault. -/
def kind : Fault → String
  | os code => osKind code
  | refused kind _ => kind.name
  | custom kind _ => kind.name

/-- The fault as one line. -/
def message : Fault → String
  | os code => osMessage code ++ " (os error " ++ toString code ++ ")"
  | refused _ reason => reason
  | custom _ reason => reason

/-- The fault as a record. -/
def describe (fault : Fault) : String :=
  match fault with
  | os code =>
    "Os \x7b code: " ++ toString code ++ ", kind: " ++ fault.kind ++ ", message: "
      ++ Text.quoted (osMessage code) ++ " \x7d"
  | refused _ reason =>
    "Error \x7b kind: " ++ fault.kind ++ ", message: " ++ Text.quoted reason ++ " \x7d"
  | custom _ reason =>
    "Custom \x7b kind: " ++ fault.kind ++ ", error: " ++ Text.quoted reason ++ " \x7d"

end Fault

end EventLog
