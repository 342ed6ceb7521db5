import Positioning.Daemon.Method
import Positioning.Table

/-!
# The state of the daemon

The daemon keeps a tree of objects and a table of the devices that it knows how to open, both by
object path, the names of the devices it would list, and the names under which clients have been
created and not yet shut down. A method that crashed has never come to an end, and is kept as busy.
-/

namespace Positioning

/-- What the daemon knows of one device. -/
structure DeviceState where
  started : UInt32
  stopped : UInt32
  connected : Bool
  fixStatus : FixStatus
  position : Position
  course : Course
  accuracy : Accuracy
  satellites : List Satellite
  time : Int32

namespace DeviceState

/-- A device that was never started and has reported nothing. -/
def initial : DeviceState where
  started := 0
  stopped := 0
  connected := false
  fixStatus := .invalid
  position := .unset
  course := .unset
  accuracy := .unset
  satellites := []
  time := 0

end DeviceState

/-- No device can be updated under a name. -/
inductive DeviceUnknown where
  | noName (e : NoDeviceName)
  | notAdded (device : String)

namespace DeviceUnknown

/-- The text of the error. -/
def message : DeviceUnknown → String
  | noName e => e.message
  | notAdded device => "no mock device " ++ device

end DeviceUnknown

/-- The state of the daemon. -/
structure Daemon where
  objects : Table ObjectPath Object
  devices : Table ObjectPath DeviceState
  known : List String
  clients : List String
  scanning : Bool
  busy : List Method

namespace Daemon

/-- The daemon before any device is added. -/
def initial : Daemon where
  objects := ⟨[(.root, .root), (.control, .control), (.discovery, .discovery)]⟩
  devices := .empty
  known := []
  clients := []
  scanning := false
  busy := []

/-- The daemon with a fresh device at a path. Whatever object was there is replaced. -/
def addDeviceAt (d : Daemon) (path : ObjectPath) : Daemon :=
  { d with
    objects := d.objects.put path .device
    devices := d.devices.put path .initial }

/-- The daemon with a fresh device under a name, and the path of its object. -/
def addDevice (d : Daemon) (device : String) : Except NoDeviceName (ObjectPath × Daemon) :=
  (ObjectPath.ofDevice device).map fun path => (path, d.addDeviceAt path)

/-- The state of the device with a name, where there is one. -/
def device? (d : Daemon) (device : String) : Option DeviceState :=
  match ObjectPath.ofDevice device with
  | .error _ => none
  | .ok path => d.devices.get? path

/-- The daemon with the state of a device changed. -/
def updateDevice (d : Daemon) (device : String) (f : DeviceState → DeviceState) :
    Except DeviceUnknown Daemon :=
  match ObjectPath.ofDevice device with
  | .error e => .error (.noName e)
  | .ok path =>
    match d.devices.get? path with
    | none => .error (.notAdded device)
    | some state => .ok { d with devices := d.devices.put path (f state) }

end Daemon

end Positioning
