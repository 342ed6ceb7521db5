import Positioning.Interface
import Positioning.Wire.Arguments
import Positioning.Wire.Name

/-!
# Signals of the daemon

The daemon emits signals of nine kinds. A kind has an interface, a member name and a type of
payload; `encode` lists a payload as message arguments and `decode` reads them back. A message is
of a kind when interface and member agree and its arguments decode (`SignalKind.read?`).
-/

namespace Positioning

open Wire

/-- What a change of position carries, field word included. -/
structure PositionChanged where
  fields : Int32
  timestamp : Int32
  latitude : Binary64
  longitude : Binary64
  altitude : Binary64
deriving DecidableEq

/-- What a change of course carries, field word included. -/
structure CourseChanged where
  fields : Int32
  timestamp : Int32
  speed : Binary64
  direction : Binary64
  climb : Binary64
deriving DecidableEq

/-- What a change of accuracy carries, field word included. -/
structure AccuracyChanged where
  fields : Int32
  position : Binary64
  horizontal : Binary64
  vertical : Binary64
deriving DecidableEq

/-- The kinds of signals. -/
inductive SignalKind where
  | positionChanged
  | courseChanged
  | accuracyChanged
  | satellitesChanged
  | timeChanged
  | connectionStatusChanged
  | fixStatusChanged
  | deviceAdded
  | deviceRemoved
deriving DecidableEq

/-- A signal as it travels on the bus. -/
structure Message where
  path : ObjectPath
  interface : String
  member : String
  arguments : List Value

/-- The message that carries arguments under two names, if they are names. -/
def Message.ofNames (path : ObjectPath) (interface member : String) (arguments : List Value) :
    Except BadName Message :=
  match BadName.of? interface member with
  | some e => .error e
  | none => .ok ⟨path.carried, carried interface, carried member, arguments⟩

/-- The readings of a position signal: bits of the field word that mean nothing are dropped. -/
def Position.ofSignal (s : PositionChanged) : Position where
  timestamp := s.timestamp
  latitude := ⟨s.latitude, FieldWord.flag s.fields 0⟩
  longitude := ⟨s.longitude, FieldWord.flag s.fields 1⟩
  altitude := ⟨s.altitude, FieldWord.flag s.fields 2⟩

/-- The signal that reports a position. -/
def Position.toSignal (p : Position) : PositionChanged :=
  ⟨p.fields, p.timestamp, p.latitude.value, p.longitude.value, p.altitude.value⟩

/-- The readings of a course signal: bits of the field word that mean nothing are dropped. -/
def Course.ofSignal (s : CourseChanged) : Course where
  timestamp := s.timestamp
  speed := ⟨s.speed, FieldWord.flag s.fields 0⟩
  direction := ⟨s.direction, FieldWord.flag s.fields 1⟩
  climb := ⟨s.climb, FieldWord.flag s.fields 2⟩

/-- The signal that reports a course. -/
def Course.toSignal (c : Course) : CourseChanged :=
  ⟨c.fields, c.timestamp, c.speed.value, c.direction.value, c.climb.value⟩

/-- The readings of an accuracy signal: bits of the field word that mean nothing are dropped. -/
def Accuracy.ofSignal (s : AccuracyChanged) : Accuracy where
  position := ⟨s.position, FieldWord.flag s.fields 0⟩
  horizontal := ⟨s.horizontal, FieldWord.flag s.fields 1⟩
  vertical := ⟨s.vertical, FieldWord.flag s.fields 2⟩

/-- The signal that reports an accuracy. -/
def Accuracy.toSignal (a : Accuracy) : AccuracyChanged :=
  ⟨a.fields, a.position.value, a.horizontal.value, a.vertical.value⟩

namespace SignalKind

/-- The interface that declares a kind of signal. -/
def interface : SignalKind → Interface
  | positionChanged => .position
  | courseChanged => .course
  | accuracyChanged => .accuracy
  | satellitesChanged => .satellite
  | timeChanged => .time
  | connectionStatusChanged => .device
  | fixStatusChanged => .device
  | deviceAdded => .discovery
  | deviceRemoved => .discovery

/-- The member name of a kind of signal. -/
def member : SignalKind → String
  | positionChanged => "PositionChanged"
  | courseChanged => "CourseChanged"
  | accuracyChanged => "AccuracyChanged"
  | satellitesChanged => "SatellitesChanged"
  | timeChanged => "TimeChanged"
  | connectionStatusChanged => "ConnectionStatusChanged"
  | fixStatusChanged => "FixStatusChanged"
  | deviceAdded => "DeviceAdded"
  | deviceRemoved => "DeviceRemoved"

/-- All kinds of signals. -/
def all : List SignalKind :=
  [positionChanged, courseChanged, accuracyChanged, satellitesChanged, timeChanged,
    connectionStatusChanged, fixStatusChanged, deviceAdded, deviceRemoved]

/-- What a signal of a kind carries. -/
def Payload : SignalKind → Type
  | positionChanged => PositionChanged
  | courseChanged => CourseChanged
  | accuracyChanged => AccuracyChanged
  | satellitesChanged => List Satellite
  | timeChanged => Int32
  | connectionStatusChanged => Bool
  | fixStatusChanged => Int32
  | deviceAdded => String
  | deviceRemoved => String

/-- The arguments that carry a payload. -/
def encode : (kind : SignalKind) → kind.Payload → List Value
  | positionChanged, (s : PositionChanged) =>
    [.int32 s.fields, .int32 s.timestamp, .double s.latitude, .double s.longitude,
      .double s.altitude]
  | courseChanged, (s : CourseChanged) =>
    [.int32 s.fields, .int32 s.timestamp, .double s.speed, .double s.direction, .double s.climb]
  | accuracyChanged, (s : AccuracyChanged) =>
    [.int32 s.fields, .double s.position, .double s.horizontal, .double s.vertical]
  | satellitesChanged, (satellites : List Satellite) => [Argument.toValue satellites]
  | timeChanged, (timestamp : Int32) => [.int32 timestamp]
  | connectionStatusChanged, (connected : Bool) => [.bool connected]
  | fixStatusChanged, (status : Int32) => [.int32 status]
  | deviceAdded, (device : String) => [Argument.toValue device]
  | deviceRemoved, (device : String) => [Argument.toValue device]

/-- Reads a payload from arguments; arguments behind those of the kind do not matter. -/
def decode : (kind : SignalKind) → List Value → Except Mismatch kind.Payload
  | positionChanged, args => do
    let fields : Int32 ← argument args 0
    let timestamp : Int32 ← argument args 1
    let latitude : Binary64 ← argument args 2
    let longitude : Binary64 ← argument args 3
    let altitude : Binary64 ← argument args 4
    return (⟨fields, timestamp, latitude, longitude, altitude⟩ : PositionChanged)
  | courseChanged, args => do
    let fields : Int32 ← argument args 0
    let timestamp : Int32 ← argument args 1
    let speed : Binary64 ← argument args 2
    let direction : Binary64 ← argument args 3
    let climb : Binary64 ← argument args 4
    return (⟨fields, timestamp, speed, direction, climb⟩ : CourseChanged)
  | accuracyChanged, args => do
    let fields : Int32 ← argument args 0
    let position : Binary64 ← argument args 1
    let horizontal : Binary64 ← argument args 2
    let vertical : Binary64 ← argument args 3
    return (⟨fields, position, horizontal, vertical⟩ : AccuracyChanged)
  | satellitesChanged, args => (argument args 0 : Except Mismatch (List Satellite))
  | timeChanged, args => (argument args 0 : Except Mismatch Int32)
  | connectionStatusChanged, args => (argument args 0 : Except Mismatch Bool)
  | fixStatusChanged, args => (argument args 0 : Except Mismatch Int32)
  | deviceAdded, args => (argument args 0 : Except Mismatch String)
  | deviceRemoved, args => (argument args 0 : Except Mismatch String)

/-- A message that carries a payload from the object at a path. -/
def message (kind : SignalKind) (path : ObjectPath) (payload : kind.Payload) : Message where
  path := path.carried
  interface := kind.interface.name
  member := kind.member
  arguments := kind.encode payload

/-- The interface and the member of a message are those of a kind. -/
def isNamedBy (kind : SignalKind) (m : Message) : Bool :=
  m.interface = kind.interface.name && m.member = kind.member

/-- The payload of a message, if the message is of the kind. -/
def read? (kind : SignalKind) (m : Message) : Option kind.Payload :=
  if kind.isNamedBy m then (kind.decode m.arguments).toOption else none

end SignalKind

end Positioning
