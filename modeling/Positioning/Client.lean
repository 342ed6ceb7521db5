import Positioning.Bus.Basic

/-!
# The client of the daemon

What a program asks of the daemon, over any bus: clients for devices from the control object, the
list of devices from the discovery object, and from the object of a device its starting and
stopping, its data, and the signals that tell of changes.

Each `on…` function makes a subscription that always stays. A fix status that stands for nothing is
an error where it is read, and a warning in the log where it is signalled.
-/

namespace Positioning.Client

open Wire

variable {β ω : Type}

/-- A call without arguments. -/
def query (path : ObjectPath) (interface : Interface) (method : String) : MethodCall :=
  ⟨path, interface.name, method, []⟩

/-- A call of the control object about a device. -/
def controlCall (method device : String) : MethodCall :=
  ⟨.control, Interface.server.name, method, [Argument.toValue device]⟩

/-- Reads the payload that a getter and the signal of the same data share. -/
def get (bus : Bus β ω) (path : ObjectPath) (kind : SignalKind) (method : String) :
    Action β ClientError ω kind.Payload :=
  bus.request kind.decode (query path kind.interface method)

/-- Subscribes to the signals of a kind from one object, for as long as the bus lasts. -/
def onSignal (bus : Bus β ω) (path : ObjectPath) (kind : SignalKind)
    (effects : kind.Payload → List (Effect ω)) : Action β ClientError ω Token :=
  bus.subscribe (some path) kind (.forEach effects)

/-! ## The control object -/

/-- Makes a client for a device and gives the path of the object that stands for it. -/
def create (bus : Bus β ω) (device : String) : Action β ClientError ω ObjectPath := do
  Action.log .debug .control ("create client for " ++ device)
  let path ← bus.request (Reply.one ObjectPath) (controlCall "Create" device)
  Action.log .info .control (device ++ " is " ++ path.text)
  return path

/-- Releases a client for a device. -/
def shutdown (bus : Bus β ω) (device : String) : Action β ClientError ω Unit := do
  Action.log .debug .control ("shutdown client for " ++ device)
  bus.request Reply.unit (controlCall "Shutdown" device)

/-! ## The discovery object -/

/-- The devices that the daemon knows, in the order in which it found them. -/
def listDevices (bus : Bus β ω) : Action β ClientError ω (List String) :=
  bus.request (Reply.one (List String)) (query .discovery .discovery "ListDevices")

/-- Lets the daemon look for devices. -/
def startScanning (bus : Bus β ω) : Action β ClientError ω Unit :=
  bus.request Reply.unit (query .discovery .discovery "StartScanning")

/-- Ends the search for devices. -/
def stopScanning (bus : Bus β ω) : Action β ClientError ω Unit :=
  bus.request Reply.unit (query .discovery .discovery "StopScanning")

/-- Tells of devices that have been added. -/
def onDeviceAdded (bus : Bus β ω) (f : String → ω) : Action β ClientError ω Token :=
  onSignal bus .discovery .deviceAdded fun device => [.output (f device)]

/-- Tells of devices that have been removed. -/
def onDeviceRemoved (bus : Bus β ω) (f : String → ω) : Action β ClientError ω Token :=
  onSignal bus .discovery .deviceRemoved fun device => [.output (f device)]

/-! ## Starting and stopping a device -/

/-- Lets the daemon open a device. -/
def start (bus : Bus β ω) (path : ObjectPath) : Action β ClientError ω Unit := do
  Action.log .debug .device ("start " ++ path.text)
  bus.request Reply.unit (query path .device "Start")

/-- Lets the daemon close a device. -/
def stop (bus : Bus β ω) (path : ObjectPath) : Action β ClientError ω Unit := do
  Action.log .debug .device ("stop " ++ path.text)
  bus.request Reply.unit (query path .device "Stop")

/-- The fix status that a number stands for, an error where it stands for none. -/
def readFixStatus (n : Int32) : Except ClientError FixStatus :=
  match FixStatus.ofInt32? n with
  | some status => .ok status
  | none => .error (.unknownFixStatus n)

/-- The kind of fix that a device has. -/
def fixStatus (bus : Bus β ω) (path : ObjectPath) : Action β ClientError ω FixStatus := do
  let n ← get bus path .fixStatusChanged "GetFixStatus"
  Action.ofExcept (readFixStatus n)

/-- Whether a device is connected. -/
def connectionStatus (bus : Bus β ω) (path : ObjectPath) : Action β ClientError ω Bool :=
  get bus path .connectionStatusChanged "GetConnectionStatus"

/-- Tells when a device is connected or disconnected. -/
def onConnection (bus : Bus β ω) (path : ObjectPath) (f : Bool → ω) :
    Action β ClientError ω Token :=
  onSignal bus path .connectionStatusChanged fun connected => [.output (f connected)]

/-- What is done with the number of a signalled fix status: one that stands for nothing goes to the
log and nowhere else. -/
def fixStatusEffects (f : FixStatus → ω) (n : Int32) : List (Effect ω) :=
  match readFixStatus n with
  | .ok status => [.output (f status)]
  | .error e => [.record ⟨.warn, .device, e.message⟩]

/-- Tells of changes of the fix status. -/
def onFixStatus (bus : Bus β ω) (path : ObjectPath) (f : FixStatus → ω) :
    Action β ClientError ω Token :=
  onSignal bus path .fixStatusChanged (fixStatusEffects f)

/-! ## The data of a device -/

/-- The last position of a device. -/
def position (bus : Bus β ω) (path : ObjectPath) : Action β ClientError ω Position := do
  return Position.ofSignal (← get bus path .positionChanged "GetPosition")

/-- The last course of a device. -/
def course (bus : Bus β ω) (path : ObjectPath) : Action β ClientError ω Course := do
  return Course.ofSignal (← get bus path .courseChanged "GetCourse")

/-- The accuracy of the last position of a device. -/
def accuracy (bus : Bus β ω) (path : ObjectPath) : Action β ClientError ω Accuracy := do
  return Accuracy.ofSignal (← get bus path .accuracyChanged "GetAccuracy")

/-- The satellites that a device has in view. -/
def satellites (bus : Bus β ω) (path : ObjectPath) : Action β ClientError ω (List Satellite) :=
  get bus path .satellitesChanged "GetSatellites"

/-- The time that a device has received. -/
def time (bus : Bus β ω) (path : ObjectPath) : Action β ClientError ω Int32 :=
  get bus path .timeChanged "GetTime"

/-- Tells of new positions. -/
def onPosition (bus : Bus β ω) (path : ObjectPath) (f : Position → ω) :
    Action β ClientError ω Token :=
  onSignal bus path .positionChanged fun s => [.output (f (Position.ofSignal s))]

/-- Tells of new courses. -/
def onCourse (bus : Bus β ω) (path : ObjectPath) (f : Course → ω) :
    Action β ClientError ω Token :=
  onSignal bus path .courseChanged fun s => [.output (f (Course.ofSignal s))]

/-- Tells of new accuracies. -/
def onAccuracy (bus : Bus β ω) (path : ObjectPath) (f : Accuracy → ω) :
    Action β ClientError ω Token :=
  onSignal bus path .accuracyChanged fun s => [.output (f (Accuracy.ofSignal s))]

/-- Tells of new sets of satellites. -/
def onSatellites (bus : Bus β ω) (path : ObjectPath) (f : List Satellite → ω) :
    Action β ClientError ω Token :=
  onSignal bus path .satellitesChanged fun view => [.output (f view)]

/-- Tells of new times. -/
def onTime (bus : Bus β ω) (path : ObjectPath) (f : Int32 → ω) : Action β ClientError ω Token :=
  onSignal bus path .timeChanged fun timestamp => [.output (f timestamp)]

end Positioning.Client
