import Positioning.Session

/-!
# The work of the tools

What each tool does on a bus, once it has one. The tools but the one that lists devices dispatch
until the bus fails, which is the failure that they end with. The tool that shows satellites
releases its client after that, and does not mind if it cannot.

The work is written for any bus, and for any number of rounds of dispatching: on a bus that does not
fail within these rounds it stops after them without a failure.
-/

namespace Positioning.Tool

variable {β : Type}

/-- Prints the positions of a device. -/
def watchWork (bus : Bus β String) (rounds : Nat) (device : String) :
    Action β ClientError String Unit := do
  let path ← Session.watchPosition bus id device
  Action.log .debug (.tool .watch) ("watching " ++ path.text)
  bus.dispatch rounds

/-- Prints the positions and courses of a device. -/
def trackWork (bus : Bus β String) (rounds : Nat) (device : String) :
    Action β ClientError String Unit := do
  let path ← Session.watchTrack bus id device
  Action.log .debug (.tool .track) ("tracking " ++ path.text)
  bus.dispatch rounds

/-- Releases the client for a device, and logs it where that fails. -/
def release (bus : Bus β String) (device : String) :
    Action β ClientError String Unit := do
  match ← Action.attempt (Client.shutdown bus device) with
  | .ok _ => return ()
  | .error e =>
    Action.log .error (.tool .satellites) ("Couldn't shutdown " ++ device ++ ": " ++ e.message)

/-- Prints the satellites in view of a device. The client is released however dispatching ends. -/
def satellitesWork (bus : Bus β String) (rounds : Nat) (device : String) :
    Action β ClientError String Unit := do
  let _ ← Session.watchSatellites bus id device
  let result ← Action.attempt (bus.dispatch rounds)
  release bus device
  Action.ofExcept result

/-- Prints the numbers of every position and course signal. -/
def monitorWork (bus : Bus β String) (rounds : Nat) (service : String) :
    Action β ClientError String Unit := do
  Session.monitor bus id
  Action.log .info (.tool .monitor) ("monitoring " ++ service)
  bus.dispatch rounds

/-- Prints the list of known devices. -/
def devicesWork (bus : Bus β String) : Action β ClientError String Unit := do
  Action.output (← Session.listDevices bus)

/-- The work of a tool for a service, with the device where it takes one. -/
def work (bus : Bus β String) (rounds : Nat) (service device : String) :
    Tool → Action β ClientError String Unit
  | watch => watchWork bus rounds device
  | track => trackWork bus rounds device
  | satellites => satellitesWork bus rounds device
  | monitor => monitorWork bus rounds service
  | devices => devicesWork bus

end Positioning.Tool
