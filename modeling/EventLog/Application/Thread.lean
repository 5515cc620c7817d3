import EventLog.Error
import EventLog.Identity

/-!
# Threads

Each thread has a name, a fiber number and, if it was started by name, a published identity that the
thread and its handle share. A thread publishes its identity before its work starts, so the handle
never shows a thread without a number. Renaming a thread renames its identity; nothing that one
thread does changes another's.

A handle can be joined once: the first join tells how the thread ended, later joins tell nothing.
-/

namespace EventLog

/-- The name of threads that never got one. -/
def unknownThreadName : String := "UNKNOWN"

/-- The identity of a thread. -/
@[ext]
structure ThreadId where
  index : Nat
  deriving DecidableEq

/-- The identity that a named thread publishes. -/
structure ThreadInfo where
  name : String
  /-- The number the system gives the thread; 0 before it runs. -/
  number : Nat := 0

instance : Inhabited ThreadInfo := ⟨{ name := unknownThreadName }⟩

/-- What a thread failed with: a text, or something that is none. -/
inductive Panic where
  | text (s : String)
  | other
  deriving DecidableEq

/-- The text by which a panic is reported. -/
def Panic.reason : Panic → String
  | text s => s
  | other => "Unknown panic"

/-- How far a thread has come. -/
inductive ThreadStatus where
  | running
  | returned
  | panicked (panic : Panic)
  deriving DecidableEq

/-- The state of a thread. -/
structure ThreadState where
  number : Nat
  name : String := unknownThreadName
  fiber : Nat := 0
  /-- Where its published identity is kept. -/
  info : Option Nat := none
  status : ThreadStatus := .running

instance : Inhabited ThreadState := ⟨{ number := 0 }⟩

/-- What the starter of a thread holds. -/
structure ThreadHandle where
  thread : ThreadId
  info : Nat
  joined : Bool := false

/-- All threads and all published identities. -/
structure Threads where
  states : Store ThreadState
  infos : Store ThreadInfo := {}
  /-- The numbers that the system gives to threads, in the order in which they are made. -/
  numbers : Nat → Nat

namespace Threads

/-- The thread that everything starts from. -/
def main : ThreadId := ⟨0⟩

/-- The main thread alone, where the system gives numbers as it likes. -/
def alone (numbers : Nat → Nat) : Threads :=
  { states := { entries := [{ number := numbers 0 }] }, numbers }

/-- The main thread alone. -/
def initial : Threads := .alone (· + 1)

/-- The state of a thread. -/
def state (ts : Threads) (t : ThreadId) : ThreadState := ts.states.get t.index

/-- The published identity of a thread, if it was started by name. -/
def this (ts : Threads) (t : ThreadId) : Option ThreadInfo :=
  (ts.state t).info.map ts.infos.get

/-- The identity that a handle shows. -/
def infoOf (ts : Threads) (h : ThreadHandle) : ThreadInfo := ts.infos.get h.info

/-- The name that a thread is started under. -/
def startName (name : String) : String := if name = "" then unknownThreadName else name

/-- Whether the system takes a name. -/
def isValidName (name : String) : Bool := !name.toList.contains '\x00'

/-- A new thread that has no name yet. -/
def make (ts : Threads) : ThreadId × Threads :=
  (⟨ts.states.size⟩,
   { ts with states := ts.states.push { number := ts.numbers ts.states.size } })

/-- A thread takes on the identity that is kept for it: the identity gets the number of the thread,
and the thread the name of the identity. -/
def publish (t : ThreadId) (info : Nat) (ts : Threads) : Threads :=
  let infos := ts.infos.modify info ({ · with number := (ts.state t).number })
  let name := (infos.get info).name
  { ts with
    states := ts.states.modify t.index ({ · with name, info := some info })
    infos }

/-- Starts a thread, which publishes its identity. Its name has to be valid. -/
def start (name : String) (ts : Threads) : ThreadHandle × Threads :=
  let info := ts.infos.size
  let (thread, ts) := { ts with infos := ts.infos.push { name } }.make
  ({ thread, info }, ts.publish thread info)

/-- Renames a thread and its published identity. -/
def rename (t : ThreadId) (name : String) (ts : Threads) : Threads :=
  { ts with
    states := ts.states.modify t.index ({ · with name })
    infos := match (ts.state t).info with
      | none => ts.infos
      | some info => ts.infos.modify info ({ · with name }) }

/-- Sets the fiber number of a thread. -/
def setFiber (t : ThreadId) (fiber : Nat) (ts : Threads) : Threads :=
  { ts with states := ts.states.modify t.index ({ · with fiber }) }

/-- Ends the work of a thread. -/
def finish (t : ThreadId) (status : ThreadStatus) (ts : Threads) : Threads :=
  { ts with states := ts.states.modify t.index ({ · with status }) }

end Threads

/-- The handle as a record; the number is left to the caller. -/
def ThreadHandle.describe (info : ThreadInfo) (number : String) (h : ThreadHandle) : String :=
  "Thread \x7b name: " ++ Text.quoted info.name ++ ", id: " ++ number ++ ", joined: "
    ++ (if h.joined then "true" else "false") ++ " \x7d"

end EventLog
