import Positioning.Bus.Action
import Positioning.FileTree
import Positioning.Settings

/-!
# Loading the settings

The settings are read from the file that is named, or from the default file. Only a default file
that is not there is passed over, and gives the default settings.

The default file is chosen when the program is built, by `GYPSY_CONFIG`. A build that does not
choose one has `/etc/gypsy/client.toml`; `client.toml` in the working directory is what the build
has chosen that is described here. How a file is loaded does not depend on the choice.
-/

namespace Positioning

/-- The causes for which the settings cannot be loaded. -/
inductive LoadFault where
  | unreadable (f : ReadFault)
  | notText
  | malformed
deriving DecidableEq

namespace LoadFault

/-- The name of a cause. -/
def name : LoadFault → String
  | unreadable f => f.name
  | notText => "InvalidData"
  | malformed => "InvalidData"

/-- What is said about a text that is no configuration. -/
def malformedText : String :=
  "Couldn't parse config"

end LoadFault

namespace Settings

/-- The default file, as the build has chosen it. -/
def defaultPath : String :=
  "client.toml"

variable {β ω : Type}

/-- The text of a file. -/
def readText (files : FileReader) (path : String) : Action β LoadFault ω String := do
  Action.log .debug .settings ("read config file: " ++ path)
  Action.ofExcept <|
    match files path with
    | .error f => .error (.unreadable f)
    | .ok content =>
      match String.fromUTF8? content with
      | some text => .ok text
      | none => .error .notText

/-- The settings that a text makes. -/
def parse (text : String) : Except LoadFault Settings :=
  match ofText? text with
  | some settings => .ok settings
  | none => .error .malformed

/-- Loads the settings from a file. -/
def loadFrom (files : FileReader) (path : String) : Action β LoadFault ω Settings := do
  let text ← readText files path
  Action.ofExcept (parse text)

/-- Loads the settings from the default file. -/
def loadDefault (files : FileReader) : Action β LoadFault ω Settings := do
  match ← Action.attempt (readText files defaultPath) with
  | .ok text => Action.ofExcept (parse text)
  | .error (.unreadable .notFound) =>
    Action.log .debug .settings "no config file, using defaults"
    return default
  | .error e => Action.fail e

/-- Loads the settings from the file that is named, or else from the default file. -/
def load (files : FileReader) : Option String → Action β LoadFault ω Settings
  | some path => loadFrom files path
  | none => loadDefault files

end Settings

end Positioning
