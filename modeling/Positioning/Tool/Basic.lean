/-!
# The tools

Each tool is a program of its own, known by the name under which it is run.
-/

namespace Positioning

/-- The tools. -/
inductive Tool where
  | watch
  | track
  | satellites
  | monitor
  | devices
deriving DecidableEq

namespace Tool

/-- The name under which a tool is run. -/
def name : Tool → String
  | watch => "gypsy-watch"
  | track => "gypsy-track"
  | satellites => "gypsy-satellites"
  | monitor => "gypsy-monitor"
  | devices => "gypsy-devices"

/-- All tools. -/
def all : List Tool :=
  [watch, track, satellites, monitor, devices]

/-- The tool with a name. -/
def ofName? (name : String) : Option Tool :=
  all.find? fun tool => tool.name = name

end Tool

end Positioning
