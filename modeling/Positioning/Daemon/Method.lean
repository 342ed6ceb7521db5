import Positioning.Signal

/-!
# Methods of the daemon

Which interfaces each kind of object offers, which methods and signals each interface declares, and
the names and types of their arguments.
-/

namespace Positioning

open Wire

/-- The methods of the daemon's objects. -/
inductive Method where
  | introspect
  | create
  | shutdown
  | listDevices
  | startScanning
  | stopScanning
  | start
  | stop
  | getFixStatus
  | getConnectionStatus
  | getPosition
  | getCourse
  | getAccuracy
  | getSatellites
  | getTime
deriving DecidableEq

/-- The kinds of objects in the tree. -/
inductive Object where
  | root
  | control
  | discovery
  | device
deriving DecidableEq

/-- An argument as it is declared: its name and its type. -/
structure Parameter where
  name : String
  type : Signature

namespace SignalKind

/-- The declared arguments of a kind of signal. -/
def parameters : SignalKind → List Parameter
  | positionChanged =>
    [⟨"fields", .int32⟩, ⟨"timestamp", .int32⟩, ⟨"latitude", .double⟩, ⟨"longitude", .double⟩,
      ⟨"altitude", .double⟩]
  | courseChanged =>
    [⟨"fields", .int32⟩, ⟨"timestamp", .int32⟩, ⟨"speed", .double⟩, ⟨"direction", .double⟩,
      ⟨"climb", .double⟩]
  | accuracyChanged =>
    [⟨"fields", .int32⟩, ⟨"position", .double⟩, ⟨"horizontal", .double⟩, ⟨"vertical", .double⟩]
  | satellitesChanged => [⟨"satellites", .array .satellite⟩]
  | timeChanged => [⟨"timestamp", .int32⟩]
  | connectionStatusChanged => [⟨"connected", .bool⟩]
  | fixStatusChanged => [⟨"fix_status", .int32⟩]
  | deviceAdded => [⟨"device", .string⟩]
  | deviceRemoved => [⟨"device", .string⟩]

end SignalKind

namespace Method

/-- All methods. -/
def all : List Method :=
  [introspect, create, shutdown, listDevices, startScanning, stopScanning, start, stop,
    getFixStatus, getConnectionStatus, getPosition, getCourse, getAccuracy, getSatellites, getTime]

/-- The interface that declares a method. -/
def interface : Method → Interface
  | introspect => .introspectable
  | create => .server
  | shutdown => .server
  | listDevices => .discovery
  | startScanning => .discovery
  | stopScanning => .discovery
  | start => .device
  | stop => .device
  | getFixStatus => .device
  | getConnectionStatus => .device
  | getPosition => .position
  | getCourse => .course
  | getAccuracy => .accuracy
  | getSatellites => .satellite
  | getTime => .time

/-- The name of a method. -/
def name : Method → String
  | introspect => "Introspect"
  | create => "Create"
  | shutdown => "Shutdown"
  | listDevices => "ListDevices"
  | startScanning => "StartScanning"
  | stopScanning => "StopScanning"
  | start => "Start"
  | stop => "Stop"
  | getFixStatus => "GetFixStatus"
  | getConnectionStatus => "GetConnectionStatus"
  | getPosition => "GetPosition"
  | getCourse => "GetCourse"
  | getAccuracy => "GetAccuracy"
  | getSatellites => "GetSatellites"
  | getTime => "GetTime"

/-- The declared arguments of a call. -/
def parameters : Method → List Parameter
  | create => [⟨"device_name", .string⟩]
  | shutdown => [⟨"device_name", .string⟩]
  | _ => []

/-- The declared arguments of the reply; a getter replies like the signal of the same data. -/
def results : Method → List Parameter
  | introspect => [⟨"xml_data", .string⟩]
  | create => [⟨"path", .objectPath⟩]
  | listDevices => [⟨"devices", .array .string⟩]
  | getFixStatus => SignalKind.fixStatusChanged.parameters
  | getConnectionStatus => SignalKind.connectionStatusChanged.parameters
  | getPosition => SignalKind.positionChanged.parameters
  | getCourse => SignalKind.courseChanged.parameters
  | getAccuracy => SignalKind.accuracyChanged.parameters
  | getSatellites => SignalKind.satellitesChanged.parameters
  | getTime => SignalKind.timeChanged.parameters
  | _ => []

end Method

namespace Interface

/-- The methods that an interface declares. -/
def methods (i : Interface) : List Method :=
  Method.all.filter (·.interface = i)

/-- The signals that an interface declares. -/
def signals (i : Interface) : List SignalKind :=
  SignalKind.all.filter (·.interface = i)

end Interface

namespace Object

/-- The interfaces that a kind of object offers. -/
def interfaces : Object → List Interface
  | root => [.introspectable]
  | control => [.introspectable, .server]
  | discovery => [.introspectable, .discovery]
  | device => [.introspectable, .device, .position, .course, .accuracy, .satellite, .time]

end Object

end Positioning
