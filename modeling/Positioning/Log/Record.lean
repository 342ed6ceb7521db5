import Positioning.Tool.Basic

/-!
# Log records

The tools report on themselves in records of five levels. A record names the part of the program
that wrote it.
-/

namespace Positioning

namespace Log

/-- How grave a record is. -/
inductive Level where
  | error
  | warn
  | info
  | debug
  | trace
deriving DecidableEq

namespace Level

/-- The name of a level in a record. -/
def name : Level → String
  | error => "ERROR"
  | warn => "WARN"
  | info => "INFO"
  | debug => "DEBUG"
  | trace => "TRACE"

/-- The rank of a level: the graver, the lower. -/
def rank : Level → Nat
  | error => 1
  | warn => 2
  | info => 3
  | debug => 4
  | trace => 5

end Level

/-- The parts of the program that write records. -/
inductive Source where
  | settings
  | bus
  | control
  | device
  | session
  | tool (t : Tool)
deriving DecidableEq

namespace Source

/-- The name of a source in a record; the filter selects by it. -/
def target : Source → String
  | settings => "gypsy_config"
  | bus => "gypsy_client::bus"
  | control => "gypsy_client::control"
  | device => "gypsy_client::device"
  | session => "gypsy_tools::session"
  | tool .watch => "gypsy_watch"
  | tool .track => "gypsy_track"
  | tool .satellites => "gypsy_satellites"
  | tool .monitor => "gypsy_monitor"
  | tool .devices => "gypsy_devices"

end Source

/-- A log record. -/
structure Record where
  level : Level
  source : Source
  text : String
deriving DecidableEq

end Log

end Positioning
