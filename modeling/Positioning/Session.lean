import Positioning.Client
import Positioning.Report

/-!
# Sessions

A session ties the daemon to an output. Watching a device makes a client for it, subscribes and only
then starts the device, so that the first fix is not lost. Monitoring listens to every device and
starts none.
-/

namespace Positioning.Session

variable {β ω : Type}

/-- The text of a failed session. -/
def failureText (e : ClientError) : String :=
  "client error: " ++ e.message

/-- Puts out the line of every position of a device, and starts the device. -/
def watchPosition (bus : Bus β ω) (out : String → ω) (device : String) :
    Action β ClientError ω ObjectPath := do
  let path ← Client.create bus device
  let _ ← Client.onPosition bus path fun p => out (Report.position p)
  Client.start bus path
  return path

/-- Puts out the line of every position and every course of a device, and starts the device. -/
def watchTrack (bus : Bus β ω) (out : String → ω) (device : String) :
    Action β ClientError ω ObjectPath := do
  let path ← Client.create bus device
  let _ ← Client.onPosition bus path fun p => out (Report.position p)
  let _ ← Client.onCourse bus path fun c => out (Report.course c)
  Client.start bus path
  return path

/-- Puts out the block of the satellites in view of a device at every change, and starts the
device. -/
def watchSatellites (bus : Bus β ω) (out : String → ω) (device : String) :
    Action β ClientError ω ObjectPath := do
  let path ← Client.create bus device
  let _ ← Client.onSatellites bus path fun view => out (Report.satellites view)
  Client.start bus path
  return path

/-- Puts out the numbers of every position and course signal of every device. -/
def monitor (bus : Bus β ω) (out : String → ω) : Action β ClientError ω Unit := do
  let _ ← bus.subscribe none .positionChanged (.output fun s => out (Report.rawPosition s))
  let _ ← bus.subscribe none .courseChanged (.output fun s => out (Report.rawCourse s))
  return ()

/-- The list of the devices that the daemon knows. -/
def listDevices (bus : Bus β ω) : Action β ClientError ω String := do
  let known ← Client.listDevices bus
  Action.log .debug .session ("daemon knows " ++ Decimal.ofNat known.length ++ " device(s)")
  return Report.devices known

end Positioning.Session
