import Positioning.CommandLine
import Positioning.Tool.Basic

/-!
# The command lines of the tools

Every tool takes a configuration file; those that watch one device take that device.
-/

namespace Positioning.Tool

/-- What a tool is for. -/
def about : Tool → String
  | watch => "Print position fixes of a GPS device"
  | track => "Print position and course of a GPS device"
  | satellites => "Print satellites in view of a GPS device"
  | monitor => "Print raw position and course signals of all GPS devices"
  | devices => "List GPS devices known to the Gypsy daemon"

/-- A tool takes a device. -/
def takesDevice : Tool → Bool
  | watch | track | satellites => true
  | monitor | devices => false

/-- What a tool may be given. -/
def form (tool : Tool) : CommandLine.Form where
  name := tool.name
  about? := some tool.about
  takesConfig := true
  takesDevice := tool.takesDevice

/-- What is said to a command line that a tool does not understand. -/
def usage (tool : Tool) : String :=
  "Usage: " ++ tool.name ++ (if tool.takesDevice then " <device>" else "")

end Positioning.Tool
