import EventLog.Names
import EventLog.Facility.Build

/-!
# The registry

A registry maps names to loggers. The name `root` always means the root logger, which also answers
for every name that is not registered; it can be replaced but not removed. The entries are kept in
the rising order of their names.
-/

namespace EventLog

/-- The name of the root logger. -/
def rootName : String := "root"

/-- A root logger and the loggers registered by name. -/
structure Registry where
  root : LoggerId
  entries : Names LoggerId := []

namespace Registry

/-- The logger for a name. -/
def get (r : Registry) (name : String) : LoggerId :=
  if name = rootName then r.root else (r.entries.find? name).getD r.root

/-- Whether a name means a logger of its own. The root logger is not listed. -/
def contains (r : Registry) (name : String) : Bool :=
  name ≠ rootName && (r.entries.find? name).isSome

/-- The names that are registered, in rising order. -/
def names (r : Registry) : List String := r.entries.keys

/-- Registers a logger under its name and gives the one that had the name before. A logger named
`root` becomes the root. -/
def add (l : LoggerId) (s : Facility) (r : Registry) : Option LoggerId × Registry :=
  let name := (s.logger l).name
  if name = rootName then (some r.root, { r with root := l })
  else (r.entries.find? name, { r with entries := r.entries.insert name l })

/-- Takes a name out and gives the logger that had it. The root logger stays. -/
def remove (name : String) (r : Registry) : Option LoggerId × Registry :=
  if name = rootName then (none, r)
  else (r.entries.find? name, { r with entries := r.entries.erase name })

/-- Gives one logger the gate, the layout and the appenders of another. -/
def adopt (target source : LoggerId) (s : Facility) : Facility :=
  let settings := s.logger source
  (((s.setLevel target settings.level).setLayout target settings.layout).clearAppenders
    target).addAppenders target settings.appenders

/-- Takes in a logger that was just made: one named `root` passes its settings to the root logger,
so that everyone who holds the root sees them; any other is registered. -/
def enroll (l : LoggerId) (s : Facility) (r : Registry) : Facility × Registry :=
  if (s.logger l).name = rootName then (adopt r.root l s, r) else (s, (r.add l s).2)

/-- Takes in loggers in order. -/
def enrollAll (built : List LoggerId) (s : Facility) (r : Registry) : Facility × Registry :=
  built.foldl (fun (s, r) l => r.enroll l s) (s, r)

/-- Makes all configured loggers and then takes them in. If one cannot be made, none is. -/
def apply [Calendar] (configs : List Config.LoggerConfig) (s : Facility) (r : Registry) :
    Except Error Unit × Facility × Registry :=
  match s.buildLoggers configs with
  | (.ok built, s) => (.ok (), r.enrollAll built s)
  | (.error error, s) => (.error error, s, r)

/-- A registry whose root logger writes to the console. -/
def new [Calendar] (s : Facility) : Registry × Facility :=
  let (root, s) := s.newConsoleLogger rootName
  ({ root }, s)

end Registry

end EventLog
