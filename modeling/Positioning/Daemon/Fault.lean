import Positioning.Wire.Arguments

/-!
# Errors that the daemon answers with

An error reply has a name, which programs test, and a text, which people read.
-/

namespace Positioning

open Wire

/-- The causes for which the daemon refuses a call. -/
inductive Fault where
  | noDeviceName (e : NoDeviceName)
  | noSuchDevice (device : String)
  | noSuchClient (client : String)
  | badArguments (m : Mismatch)
  | unknownObject
  | unknownMethod (name : String)
  | unknownPeerMethod
  | methodBusy (name : String)

namespace Fault

/-- The name of the error reply. -/
def name : Fault → String
  | noDeviceName _ => "org.freedesktop.DBus.Error.Failed"
  | noSuchDevice _ => "org.freedesktop.DBus.Error.Failed"
  | noSuchClient _ => "org.freedesktop.DBus.Error.Failed"
  | badArguments _ => "org.freedesktop.DBus.Error.Failed"
  | unknownObject => "org.freedesktop.DBus.Error.UnknownMethod"
  | unknownMethod _ => "org.freedesktop.DBus.Error.UnknownMethod"
  | unknownPeerMethod => "org.freedesktop.DBus.Error.UnknownMethod"
  | methodBusy _ => "org.freedesktop.DBus.Error.Failed"

/-- The text of the error reply. -/
def text : Fault → String
  | noDeviceName e => e.message
  | noSuchDevice device => "No such device: " ++ device
  | noSuchClient client => "No such client: " ++ client
  | badArguments m => m.message
  | unknownObject => "Path, Interface, or Method does not exist"
  | unknownMethod name => "Unknown method " ++ name
  | unknownPeerMethod => "Method does not exist"
  | methodBusy name => "Detected recursive call to " ++ name

end Fault

end Positioning
