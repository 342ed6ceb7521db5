import Positioning.Bus.Basic
import Positioning.Daemon.Introspection

/-!
# How the daemon answers calls

A call names an object, an interface and a method. The daemon refuses it with a fault, or replies
with values, emits signals and changes its state; a refused call changes nothing.

Starting and stopping a device are counted every time, but a change of connection is signalled only
when there is one. On a full counter the daemon crashes. Then nothing has changed but that the
method is busy, on every object and from then on.
-/

namespace Positioning

open Wire

/-- What comes of a call that is answered. -/
structure Answer where
  reply : List Value
  signals : List Message
  daemon : Daemon

/-- What comes of a call. -/
inductive Response where
  | answered (a : Answer)
  | refused (f : Fault)
  | crashed (d : Daemon)

namespace Daemon

/-- A reply that changes nothing. -/
def reply (d : Daemon) (values : List Value) : Answer :=
  ⟨values, [], d⟩

/-- The state of the device behind an object. -/
def deviceAt (d : Daemon) (path : ObjectPath) : Except Fault DeviceState :=
  match d.devices.get? path with
  | some state => .ok state
  | none => .error (.noSuchClient path.text)

/-- Answers a getter of a device. -/
def getter (d : Daemon) (path : ObjectPath) (values : DeviceState → List Value) : Response :=
  match d.deviceAt path with
  | .ok state => .answered (d.reply (values state))
  | .error f => .refused f

/-- One more than a count, where there is room for it. -/
def countOn? (n : UInt32) : Option UInt32 :=
  if n.toNat + 1 < UInt32.size then some (n + 1) else none

/-- Writes the state of a device, and signals its connection if that was not as it is now. -/
def connect (d : Daemon) (path : ObjectPath) (before after : DeviceState) : Answer where
  reply := []
  signals :=
    if before.connected = after.connected then []
    else [SignalKind.connectionStatusChanged.message path after.connected]
  daemon := { d with devices := d.devices.put path after }

/-- The daemon after a method crashed. -/
def crashIn (d : Daemon) (method : Method) : Daemon :=
  { d with busy := method :: d.busy }

/-- Starts a device. -/
def start (d : Daemon) (path : ObjectPath) : Response :=
  match d.deviceAt path with
  | .error f => .refused f
  | .ok state =>
    match countOn? state.started with
    | none => .crashed (d.crashIn .start)
    | some started => .answered (d.connect path state { state with started, connected := true })

/-- Stops a device. -/
def stop (d : Daemon) (path : ObjectPath) : Response :=
  match d.deviceAt path with
  | .error f => .refused f
  | .ok state =>
    match countOn? state.stopped with
    | none => .crashed (d.crashIn .stop)
    | some stopped => .answered (d.connect path state { state with stopped, connected := false })

/-- Makes a client for a device that the daemon can open. -/
def create (d : Daemon) (device : String) : Response :=
  match ObjectPath.ofDevice device with
  | .error e => .refused (.noDeviceName e)
  | .ok path =>
    match d.devices.get? path with
    | none => .refused (.noSuchDevice device)
    | some _ => .answered ⟨[.objectPath path], [], { d with clients := d.clients ++ [device] }⟩

/-- Removes the oldest client with a name. -/
def shutdown (d : Daemon) (client : String) : Response :=
  if client ∈ d.clients then
    .answered ⟨[], [], { d with clients := d.clients.erase client }⟩
  else .refused (.noSuchClient client)

/-- Runs a method of the object at a path. -/
def run (d : Daemon) (path : ObjectPath) (object : Object) (arguments : List Value) :
    Method → Response
  | .introspect =>
    .answered (d.reply [Value.ofText (Introspection.text d.objects.keys path object)])
  | .create =>
    match (argument arguments 0 : Except Mismatch String) with
    | .error m => .refused (.badArguments m)
    | .ok device => d.create device
  | .shutdown =>
    match (argument arguments 0 : Except Mismatch String) with
    | .error m => .refused (.badArguments m)
    | .ok client => d.shutdown client
  | .listDevices => .answered (d.reply [Argument.toValue d.known])
  | .startScanning => .answered ⟨[], [], { d with scanning := true }⟩
  | .stopScanning => .answered ⟨[], [], { d with scanning := false }⟩
  | .start => d.start path
  | .stop => d.stop path
  | .getFixStatus =>
    d.getter path fun s => SignalKind.fixStatusChanged.encode s.fixStatus.toInt32
  | .getConnectionStatus =>
    d.getter path fun s => SignalKind.connectionStatusChanged.encode s.connected
  | .getPosition => d.getter path fun s => SignalKind.positionChanged.encode s.position.toSignal
  | .getCourse => d.getter path fun s => SignalKind.courseChanged.encode s.course.toSignal
  | .getAccuracy => d.getter path fun s => SignalKind.accuracyChanged.encode s.accuracy.toSignal
  | .getSatellites => d.getter path fun s => SignalKind.satellitesChanged.encode s.satellites
  | .getTime => d.getter path fun s => SignalKind.timeChanged.encode s.time

/-- The method that a call names on an object. -/
def findMethod (object : Object) (c : MethodCall) : Except Fault Method :=
  match object.interfaces.find? (·.name = c.interface) with
  | none => .error .unknownObject
  | some interface =>
    match interface.methods.find? (·.name = c.method) with
    | none => .error (.unknownMethod c.method)
    | some method => .ok method

/-- Answers a call. The peer interface is there on every path, also where no object is. -/
def answer (d : Daemon) (c : MethodCall) : Response :=
  if c.interface = Interface.peer then
    if c.method = "Ping" then .answered (d.reply []) else .refused .unknownPeerMethod
  else
    match d.objects.get? c.path with
    | none => .refused .unknownObject
    | some object =>
      match findMethod object c with
      | .error f => .refused f
      | .ok method =>
        if method ∈ d.busy then .refused (.methodBusy method.name)
        else d.run c.path object c.arguments method

end Daemon

end Positioning
