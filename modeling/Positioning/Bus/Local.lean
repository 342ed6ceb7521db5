import Positioning.Bus.Subscription
import Positioning.Daemon.Answer

/-!
# The bus inside the process

A local bus holds a daemon of its own. Calls are answered at once; signals wait in a queue until
they are processed, one at a time, and each then reaches every subscription that selects it. A
journal keeps what was asked of the bus, in order, also what was refused, but not calls under names
that are none: they crash. So does a call on which the daemon crashes.

Two counters have no bound here. A call is sent under a serial number of 32 bits, by which its reply
is found; as the reply is in hand here the number is left out, so calls go on where it would have
run out, after 4294967295 of them. Tokens are natural numbers, where a machine has a word for them.

## Main definitions

- `LocalBus` is the state, `LocalBus.bus` the operations on it.
- `LocalBus.emit` puts a signal into the queue; `LocalBus.drain` processes all that is there.
-/

namespace Positioning

open Wire

/-- What was asked of a bus. -/
inductive Event where
  | call (c : MethodCall)
  | subscribe (rule : MatchRule)
  | unsubscribe (token : Token)

namespace Event

/-- A call of the method with a name, on whatever object and interface. -/
def isCall (name : String) : Event → Bool
  | call c => c.method = name
  | _ => false

/-- A subscription to the signal with a name. -/
def isSubscribe (name : String) : Event → Bool
  | subscribe rule => rule.kind.member = name
  | _ => false

end Event

/-- The state of a local bus. -/
structure LocalBus (ω : Type) where
  daemon : Daemon
  journal : List Event
  queue : List Message
  subscriptions : List (Subscription ω)
  nextToken : Nat

namespace LocalBus

variable {ω : Type}

/-- A bus on which nothing has happened, with a daemon that knows no device. -/
def initial : LocalBus ω where
  daemon := .initial
  journal := []
  queue := []
  subscriptions := []
  nextToken := 1

/-- Writes an event into the journal. -/
def note (b : LocalBus ω) (e : Event) : LocalBus ω :=
  { b with journal := b.journal ++ [e] }

/-- Puts a signal into the queue. -/
def emit (b : LocalBus ω) (m : Message) : LocalBus ω :=
  { b with queue := b.queue ++ [m] }

/-- Lets the daemon answer a call; the signals that it emits come behind those in the queue. -/
def call (c : MethodCall) : Action (LocalBus ω) ClientError ω (List Value) :=
  ⟨fun b =>
    match c.badName? with
    | some e => ⟨.crash (.badName e), [], b⟩
    | none =>
      let noted := b.note (.call c)
      match noted.daemon.answer c.carried with
      | .refused f => ⟨.error (.fault f), [], noted⟩
      | .crashed daemon => ⟨.crash .counterFull, [], { noted with daemon }⟩
      | .answered a =>
        ⟨.ok a.reply, [], { noted with daemon := a.daemon, queue := noted.queue ++ a.signals }⟩⟩

/-- Adds a subscription behind the others. -/
def subscribe (path? : Option ObjectPath) (kind : SignalKind) (handler : Handler kind.Payload ω) :
    Action (LocalBus ω) ClientError ω Token :=
  ⟨fun b =>
    let noted := b.note (.subscribe ⟨path?, kind⟩)
    ⟨.ok ⟨noted.nextToken⟩, [],
      { noted with
        subscriptions := noted.subscriptions ++ [.fresh ⟨noted.nextToken⟩ ⟨path?, kind⟩ handler]
        nextToken := noted.nextToken + 1 }⟩⟩

/-- Removes a subscription; it does not matter whether it was there. -/
def unsubscribe (token : Token) : Action (LocalBus ω) ClientError ω Unit :=
  ⟨fun b =>
    let noted := b.note (.unsubscribe token)
    ⟨.ok (), [],
      { noted with subscriptions := noted.subscriptions.filter fun s => s.token ≠ token }⟩⟩

/-- Delivers the oldest signal of the queue to every subscription. -/
def process : Action (LocalBus ω) ClientError ω Bool :=
  ⟨fun b =>
    match b.queue with
    | [] => ⟨.ok false, [], b⟩
    | m :: rest =>
      let delivery := Subscription.deliverAll m b.subscriptions
      ⟨.ok true, delivery.effects,
        { b with queue := rest, subscriptions := delivery.remaining }⟩⟩

/-- The operations of a local bus. -/
def bus : Bus (LocalBus ω) ω where
  call := call
  badReply := .badArguments
  subscribe := subscribe
  unsubscribe := unsubscribe
  process := process

/-- Processes all signals in the queue and counts them. -/
def drain : Action (LocalBus ω) ClientError ω Nat :=
  ⟨fun b => (bus.drain (b.queue.length + 1)).run b⟩

/-- The arguments of every call of the method with a name, in order. -/
def calls (b : LocalBus ω) (method : String) : List (List Value) :=
  b.journal.filterMap fun
    | .call c => if c.method = method then some c.arguments else none
    | _ => none

/-- Adds a fresh device under a name. -/
def addDevice (b : LocalBus ω) (device : String) :
    Except NoDeviceName (ObjectPath × LocalBus ω) :=
  (b.daemon.addDevice device).map fun (path, daemon) => (path, { b with daemon })

/-- Writes the names of the devices that the daemon would list. -/
def setKnown (b : LocalBus ω) (known : List String) : LocalBus ω :=
  { b with daemon := { b.daemon with known } }

/-- Changes the state of the device with a name. -/
def updateDevice (b : LocalBus ω) (device : String) (f : DeviceState → DeviceState) :
    Except DeviceUnknown (LocalBus ω) :=
  (b.daemon.updateDevice device f).map fun daemon => { b with daemon }

/-- Puts a signal from the object of the device with a name into the queue. -/
def emitFor (b : LocalBus ω) (device : String) (kind : SignalKind) (payload : kind.Payload) :
    Except NoDeviceName (LocalBus ω) :=
  (ObjectPath.ofDevice device).map fun path => b.emit (kind.message path payload)

end LocalBus

end Positioning
