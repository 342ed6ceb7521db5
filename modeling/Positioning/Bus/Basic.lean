import Positioning.Bus.Action
import Positioning.Daemon.Fault
import Positioning.Signal

/-!
# Buses

A `Bus` is whatever carries method calls to the daemon and signals back: a record of four
operations on a state of its own. The clients and sessions of this library are written against
this record, so they run on the bus inside the process, on a connection to a message bus, and on
any bus that answers and fails as it likes.

## Main definitions

- `ClientError` is the cause for which an operation fails.
- `Handler` decides what to do with a payload from all that its subscription received before; it
  may count or remember, and it says whether the subscription is to stay.
- `Bus` is the record of operations; `Bus.request` is a call whose reply is read.
-/

namespace Positioning

open Wire

/-- A call of a method on an object of the daemon. -/
structure MethodCall where
  path : ObjectPath
  interface : String
  method : String
  arguments : List Value

namespace MethodCall

/-- What is wrong with the names of a call. -/
def badName? (c : MethodCall) : Option BadName :=
  BadName.of? c.interface c.method

/-- A call as the wire carries it. Its arguments are made as they are carried. -/
def carried (c : MethodCall) : MethodCall :=
  ⟨c.path.carried, Wire.carried c.interface, Wire.carried c.method, c.arguments⟩

end MethodCall

/-- The causes for which the transport itself fails. -/
inductive TransportFault where
  | unreachable
  | serviceUnknown (service : String)
  | noReply
  | badReply (m : Mismatch)
  | noMatch
  | hungUp
  | cutOff
  | closed

namespace TransportFault

/-- The name of the error. -/
def name : TransportFault → String
  | unreachable => "org.freedesktop.DBus.Error.FileNotFound"
  | serviceUnknown _ => "org.freedesktop.DBus.Error.ServiceUnknown"
  | noReply => "org.freedesktop.DBus.Error.NoReply"
  | badReply _ => "org.freedesktop.DBus.Error.Failed"
  | noMatch => "org.freedesktop.DBus.Error.Failed"
  | hungUp => "org.freedesktop.DBus.Error.Failed"
  | cutOff => "org.freedesktop.DBus.Error.Disconnected"
  | closed => "org.freedesktop.DBus.Error.Disconnected"

/-- The text of the error. -/
def text : TransportFault → String
  | unreachable => "Failed to connect to the message bus"
  | serviceUnknown service => "The name " ++ service ++ " was not provided by any .service files"
  | noReply =>
    "Did not receive a reply. Possible causes include: the remote application did not send a " ++
      "reply, the message bus security policy blocked the reply, the reply timeout expired, or " ++
      "the network connection was broken."
  | badReply m => m.message
  | noMatch => "No match with that id found"
  | hungUp => "Failed to read/write data, disconnected from D-Bus?"
  | cutOff => "Connection was disconnected before a reply was received"
  | closed => "Connection is closed"

end TransportFault

/-- The causes for which an operation on a bus fails. -/
inductive ClientError where
  | fault (f : Fault)
  | transport (f : TransportFault)
  | badArguments (m : Mismatch)
  | unknownFixStatus (n : Int32)
  | badService (name : String)
  | other (text : String)

namespace ClientError

/-- The name and the text of an error that travelled as, or stands for, an error reply. -/
def busError? : ClientError → Option (String × String)
  | fault f => some (f.name, f.text)
  | transport f => some (f.name, f.text)
  | _ => none

/-- The text of an error. -/
def message : ClientError → String
  | fault f => "dbus error: " ++ f.text
  | transport f => "dbus error: " ++ f.text
  | badArguments m => "bad arguments: " ++ m.message
  | unknownFixStatus n => "unknown fix status: " ++ Decimal.ofInt n.toInt
  | badService name => "invalid bus name: " ++ name
  | other text => text

end ClientError

/-- Names a subscription; a bus never gives a token twice. -/
structure Token where
  id : Nat
deriving DecidableEq

/-- What a handler does with one payload. -/
structure Reaction (ω : Type) where
  effects : List (Effect ω)
  keep : Bool

/-- A handler reacts to a payload knowing all that its subscription received before. -/
def Handler (α ω : Type) : Type :=
  List α → α → Reaction ω

namespace Handler

/-- A handler that reacts to each payload by itself and always stays. -/
def forEach {α ω : Type} (effects : α → List (Effect ω)) : Handler α ω :=
  fun _ a => ⟨effects a, true⟩

/-- A handler that puts something out for each payload and always stays. -/
def output {α ω : Type} (f : α → ω) : Handler α ω :=
  forEach fun a => [.output (f a)]

/-- The same handler, told to leave at the `n`-th payload; zero stands for never. -/
def leavingAt {α ω : Type} (n : Nat) (h : Handler α ω) : Handler α ω :=
  fun received a => ⟨(h received a).effects, received.length + 1 ≠ n⟩

end Handler

/-- The operations of a bus in a state of type `β`. -/
structure Bus (β ω : Type) where
  /-- Calls a method and gives the values of its reply. -/
  call : MethodCall → Action β ClientError ω (List Value)
  /-- How this bus reports a reply that does not read as expected. -/
  badReply : Mismatch → ClientError
  /-- Asks for the signals of a kind, from one object or from all of them. -/
  subscribe : Option ObjectPath → (kind : SignalKind) → Handler kind.Payload ω →
    Action β ClientError ω Token
  /-- Ends a subscription. -/
  unsubscribe : Token → Action β ClientError ω Unit
  /-- Hands on one message that has arrived, and tells whether there was one. -/
  process : Action β ClientError ω Bool

namespace Bus

variable {β ω α : Type}

/-- Calls a method and reads its reply. -/
def request (bus : Bus β ω) (read : List Value → Except Mismatch α) (c : MethodCall) :
    Action β ClientError ω α := do
  let reply ← bus.call c
  Action.ofExcept ((read reply).mapError bus.badReply)

/-- Processes messages, at most the given number of times, until there is none; counts those that
were there. -/
def drain (bus : Bus β ω) : Nat → Action β ClientError ω Nat
  | 0 => pure 0
  | rounds + 1 => do
    if ← bus.process then
      return (← bus.drain rounds) + 1
    else
      return 0

/-- Processes messages, at most the given number of times, until the bus fails. -/
def dispatch (bus : Bus β ω) : Nat → Action β ClientError ω Unit
  | 0 => pure ()
  | rounds + 1 => do
    let _ ← bus.process
    bus.dispatch rounds

end Bus

/-! Ways to read a reply. -/
namespace Reply

/-- A reply whose values do not matter. -/
def unit (_ : List Value) : Except Mismatch Unit :=
  .ok ()

/-- A reply that begins with one value. -/
def one (α : Type) [Argument α] (values : List Value) : Except Mismatch α :=
  argument values 0

end Reply

end Positioning
