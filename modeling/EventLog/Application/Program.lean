import EventLog.Application.Call

/-!
# Programs with wraps

A `Program` is an application with the wraps that it has made. Its steps are calls, and what is done
with wraps: making one, writing into its event, and dropping it. The steps for several wraps may come
in any order.
-/

namespace EventLog

/-- The identity of a wrap. -/
@[ext]
structure WrapId where
  index : Nat
  deriving DecidableEq

/-- An application and its wraps. -/
structure Program where
  app : Application
  wraps : Store Wrap := {}

/-- One thing that a program does. -/
inductive Program.Step where
  | call (call : Call)
  -- Wraps.
  | wrap (event : Event)
  /-- Makes a wrap of an event that is captured now. -/
  | capture (t : ThreadId) (l : LoggerId) (level : Level) (site : Site)
  | append (w : WrapId) (text : String)
  | format (w : WrapId) (pieces : List Piece)
  | drop (w : WrapId)

namespace Program

/-- The state of a wrap; empty if there is none. -/
def wrap (q : Program) (w : WrapId) : Wrap := q.wraps.get w.index

/-- Changes one wrap. -/
def modifyWrap (w : WrapId) (change : Wrap → Wrap) (q : Program) : Program :=
  { q with wraps := q.wraps.modify w.index change }

/-- Adds a wrap of an event. -/
def newWrap (e : Event) (q : Program) : Program := { q with wraps := q.wraps.push (.new e) }

/-- What a step leaves. -/
def perform (q : Program) : Step → Program
  | .call call => { q with app := q.app.perform call }
  | .wrap event => q.newWrap event
  | .capture t l level site => q.newWrap (q.app.capture t l level site)
  | .append w text => q.modifyWrap w (·.change (·.append text))
  | .format w pieces => q.modifyWrap w (·.change (·.format pieces))
  | .drop w =>
    let (dropped, app) := q.app.dropWrap (q.wrap w)
    { q with app }.modifyWrap w fun _ => dropped

/-- Performs steps in order. -/
def run (q : Program) (steps : List Step) : Program := steps.foldl perform q

/-- The steps of a run, each with the program that it meets. -/
def history (q : Program) : List Step → List (Program × Step)
  | [] => []
  | step :: rest => (q, step) :: (q.perform step).history rest

@[simp] theorem run_nil (q : Program) : q.run [] = q := rfl

@[simp] theorem run_cons (q : Program) (step : Step) (rest : List Step) :
    q.run (step :: rest) = (q.perform step).run rest := rfl

theorem run_append (q : Program) (before after : List Step) :
    q.run (before ++ after) = (q.run before).run after :=
  List.foldl_append

theorem history_append (q : Program) (before after : List Step) :
    q.history (before ++ after) = q.history before ++ (q.run before).history after := by
  induction before generalizing q with
  | nil => rfl
  | cons step rest ih =>
    rw [List.cons_append, history, ih (q.perform step)]
    rfl

end Program

end EventLog
