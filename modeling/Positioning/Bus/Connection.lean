import Positioning.Bus.Subscription
import Positioning.BusName
import Positioning.Daemon.Answer
import Positioning.Settings

/-!
# Connections to a message bus

A connection reaches the daemon through a message bus, which passes on a signal only while a match
rule of the connection selects it. Signals are on the line until they are received, and then wait in
an inbox; each is handed to the first subscription that selects it, in the order in which the
subscriptions were made, and to no other.

A subscription comes with a rule of its own on the bus. Where a subscription ends, one equal rule is
taken off the bus.

Calls and changes of rules are exchanges: a request is sent, and its answer is waited for, so that
all that is on the line is received too. The bus may hang up. That is noticed by the next exchange,
or when the inbox is empty and more is to be received; it leaves a farewell, which is processed like
a message.

## Main definitions

- `Remote` is what answers at the other end; `Script` is what it does by itself.
- `Connection` is the state, `Connection.bus` the operations on it.
- `Connection.exchange` is what calls and changes of rules have in common.
- `Connection.connect` makes a connection from the settings.
-/

namespace Positioning

open Wire

/-- The daemon at the other end of a connection. Methods may be mute, or reply with fixed values
whatever the daemon's state is. -/
structure Remote where
  daemon : Daemon
  mute : List String
  replies : Table String (List Value)

namespace Remote

/-- The name under which the daemon is found on the bus. -/
def service : String :=
  "org.freedesktop.Gypsy"

/-- What comes of a call at the other end. -/
inductive Served where
  | answered (a : Answer)
  | failed (e : ClientError)
  | hungUp

/-- What the other end makes of a call. A daemon that crashes is not there any more. -/
def serve (r : Remote) (c : MethodCall) : Served :=
  if c.method ∈ r.mute then .failed (.transport .noReply)
  else
    match r.replies.get? c.method with
    | some values => .answered (r.daemon.reply values)
    | none =>
      match r.daemon.answer c with
      | .answered a => .answered a
      | .refused f => .failed (.fault f)
      | .crashed _ => .hungUp

end Remote

/-- What a script waits for. -/
inductive Cue where
  | never
  | replyTo (method : String)
  | subscription (token : Token)
deriving DecidableEq

/-- What the other end does by itself: it sends signals on a cue, and it may hang up when there is
nothing left to handle. -/
structure Script where
  cue : Cue
  signals : List Message
  hangsUp : Bool

namespace Script

/-- The script of a bus that only answers. -/
def silent : Script :=
  ⟨.never, [], false⟩

end Script

/-- A message bus that listens, with the daemon that it reaches. -/
structure Host where
  kind : BusKind
  remote : Remote

/-- What a connection knows of its bus. -/
inductive Link where
  /-- The bus is there. -/
  | up
  /-- The bus has hung up, which has not been noticed. -/
  | cut
  /-- It has been noticed that the bus hung up. The flag tells whether the farewell is still to be
  processed. -/
  | down (farewell : Bool)
deriving DecidableEq

/-- The state of a connection. -/
structure Connection (ω : Type) where
  settings : Settings
  remote : Remote
  script : Script
  rules : List MatchRule
  line : List Message
  inbox : List Message
  subscriptions : List (Subscription ω)
  nextToken : Nat
  link : Link

namespace Connection

variable {β ω α : Type}

/-- The name that the bus gives to the connection. -/
def uniqueName : String :=
  ":1.1"

/-- A fresh connection. -/
def fresh (settings : Settings) (remote : Remote) (script : Script) : Connection ω where
  settings := settings
  remote := remote
  script := script
  rules := []
  line := []
  inbox := []
  subscriptions := []
  nextToken := 1
  link := .up

/-! ## The other end -/

/-- The texts of the rules on the bus, as they arrived there. -/
def ruleTexts (b : Connection ω) : List String :=
  b.rules.map fun rule => carried rule.text

/-- Sends a signal over the bus, which drops it where no rule selects it. -/
def send (b : Connection ω) (m : Message) : Connection ω :=
  if b.link = .up && b.rules.any (·.selects m) then { b with line := b.line ++ [m] } else b

/-- Sends signals in order. -/
def sendAll (b : Connection ω) (signals : List Message) : Connection ω :=
  signals.foldl send b

/-- Plays the script if it waits for a cue. A script is played once. -/
def play (b : Connection ω) (cue : Cue) : Connection ω :=
  if b.script.cue = cue then
    { b with script := { b.script with cue := .never } }.sendAll b.script.signals
  else b

/-- The bus hangs up. -/
def hangUp (b : Connection ω) : Connection ω :=
  if b.link = .up then { b with link := .cut } else b

/-! ## Exchanges -/

/-- Receives what is on the line. -/
def receive (b : Connection ω) : Connection ω :=
  { b with line := [], inbox := b.inbox ++ b.line }

/-- Notices that the bus has hung up; what was on the line is received. -/
def notice (b : Connection ω) : Connection ω :=
  { b.receive with link := .down true }

/-- How an exchange fails on a bus that has hung up unnoticed. While there are messages to be
processed, it is known that no answer came; without them it seems that none was sent. -/
def lost (b : Connection ω) : ClientError :=
  .transport (if b.inbox.isEmpty then .noReply else .cutOff)

/-- Sends a request and waits for the answer, if the bus is there. Where there is no answer, the bus
has hung up. -/
def exchange (serve : Connection ω → Option (Except ClientError α) × Connection ω) :
    Action (Connection ω) ClientError ω α :=
  ⟨fun b =>
    match b.link with
    | .up =>
      match serve b with
      | (some result, b) => ⟨.ofExcept result, [], b.receive⟩
      | (none, b) => ⟨.error b.notice.lost, [], b.notice⟩
    | .cut => ⟨.error b.notice.lost, [], b.notice⟩
    | .down _ => ⟨.error (.transport .closed), [], b⟩⟩

/-- What comes of a call on a bus that is there. -/
def serveCall (c : MethodCall) (b : Connection ω) :
    Option (Except ClientError (List Value)) × Connection ω :=
  if carried b.settings.service = Remote.service then
    match b.remote.serve c with
    | .answered a =>
      let answered := { b with remote := { b.remote with daemon := a.daemon } }
      (some (.ok a.reply), (answered.sendAll a.signals).play (.replyTo c.method))
    | .failed e => (some (.error e), b)
    | .hungUp => (none, b)
  else (some (.error (.transport (.serviceUnknown (carried b.settings.service)))), b)

/-- Puts the rule of the next subscription on the bus. -/
def serveRule (rule : MatchRule) (b : Connection ω) :
    Option (Except ClientError Unit) × Connection ω :=
  (some (.ok ()), { b with rules := b.rules ++ [rule] }.play (.subscription ⟨b.nextToken⟩))

/-- Takes a rule off the bus. -/
def serveNoRule (rule : MatchRule) (b : Connection ω) :
    Option (Except ClientError Unit) × Connection ω :=
  (some (.ok ()), { b with rules := b.rules.erase rule })

/-! ## Operations -/

/-- What is written to the log before a call. -/
def callText (c : MethodCall) : String :=
  "call " ++ c.interface ++ "." ++ c.method ++ " on " ++ c.path.text

/-- Goes on only if the bus takes a length of time. -/
def requireTimeout (timeout : Milliseconds) : Action (Connection ω) ClientError ω Unit :=
  if timeout.isRefused then Action.crash .badTimeout else pure ()

/-- Calls a method of the daemon. -/
def call (c : MethodCall) : Action (Connection ω) ClientError ω (List Value) := do
  Action.log .trace .bus (callText c)
  match c.badName? with
  | some e => Action.crash (.badName e)
  | none =>
    requireTimeout (← Action.state).settings.callTimeout
    exchange (serveCall c.carried)

/-- Adds a subscription behind the others, whose rule is on the bus. -/
def addSubscription (path? : Option ObjectPath) (kind : SignalKind)
    (handler : Handler kind.Payload ω) : Action (Connection ω) ClientError ω Token :=
  ⟨fun b =>
    let s : Subscription ω := .fresh ⟨b.nextToken⟩ ⟨path?, kind⟩ handler
    ⟨.ok s.token, [],
      { b with subscriptions := b.subscriptions ++ [s], nextToken := b.nextToken + 1 }⟩⟩

/-- Puts a rule on the bus, and a subscription behind the others. -/
def subscribe (path? : Option ObjectPath) (kind : SignalKind) (handler : Handler kind.Payload ω) :
    Action (Connection ω) ClientError ω Token := do
  Action.log .debug .bus ("add match " ++ (MatchRule.mk path? kind).text)
  exchange (serveRule ⟨path?, kind⟩)
  addSubscription path? kind handler

/-- Removes a subscription, and one rule equal to its own from the bus. -/
def unsubscribe (token : Token) : Action (Connection ω) ClientError ω Unit :=
  ⟨fun b =>
    match b.subscriptions.find? (·.token = token) with
    | none => ⟨.error (.transport .noMatch), [], b⟩
    | some s =>
      (exchange (serveNoRule s.rule)).run
        { b with subscriptions := b.subscriptions.filter fun s => s.token ≠ token }⟩

/-- Delivers a message to the first subscription that selects it. The rule is that of the
subscription, if it did not stay. -/
def deliverFirst (m : Message) : List (Subscription ω) → Delivery ω × Option MatchRule
  | [] => (⟨[], []⟩, none)
  | s :: rest =>
    if s.rule.selects m then
      let delivery := s.deliver m
      (⟨delivery.effects, delivery.remaining ++ rest⟩,
        if delivery.remaining.isEmpty then some s.rule else none)
    else
      let (delivery, ended) := deliverFirst m rest
      (⟨delivery.effects, s :: delivery.remaining⟩, ended)

/-- Takes the rule of a subscription that ended off the bus. Whether the bus answers does not
matter. -/
def endRule (b : Connection ω) : Option MatchRule → Connection ω
  | none => b
  | some rule => ((exchange (serveNoRule rule)).run b).state

/-- Delivers a message of the inbox to one subscription; the others stay there. -/
def deliver (m : Message) (rest : List Message) : Action (Connection ω) ClientError ω Bool :=
  ⟨fun b =>
    let (delivery, ended) := deliverFirst m b.subscriptions
    ⟨.ok true, delivery.effects,
      { b with inbox := rest, subscriptions := delivery.remaining }.endRule ended⟩⟩

/-- Delivers the oldest message of the inbox, if there is one. -/
def deliverNext : Action (Connection ω) ClientError ω Bool :=
  ⟨fun b =>
    match b.inbox with
    | [] => ⟨.ok false, [], b⟩
    | m :: rest => (deliver m rest).run b⟩

/-- Receives what there is and delivers a message, where the inbox is empty. -/
def awaitNext : Action (Connection ω) ClientError ω Bool :=
  ⟨fun b =>
    match b.link with
    | .down true => ⟨.ok true, [], { b with link := .down false }⟩
    | _ =>
      if b.settings.processTimeout.isRefused then ⟨.crash .badTimeout, [], b⟩
      else
        match b.link with
        | .up =>
          if b.line.isEmpty && b.script.hangsUp then
            ⟨.error (.transport .hungUp), [], b.notice⟩
          else deliverNext.run b.receive
        | .cut => ⟨.error (.transport .hungUp), [], b.notice⟩
        | .down _ => ⟨.error (.transport .hungUp), [], b⟩⟩

/-- Delivers the oldest message, whether it is in the inbox or on the line. -/
def process : Action (Connection ω) ClientError ω Bool :=
  ⟨fun b => if b.inbox.isEmpty then awaitNext.run b else deliverNext.run b⟩

/-- The operations of a connection. -/
def bus : Bus (Connection ω) ω where
  call := call
  badReply m := .transport (.badReply m)
  subscribe := subscribe
  unsubscribe := unsubscribe
  process := process

/-- The rounds of processing after which nothing is left: one for each message, one for the
farewell, and the one that finds nothing. -/
def rounds (b : Connection ω) : Nat :=
  b.inbox.length + b.line.length + 2

/-- Processes all messages and counts them. -/
def drain : Action (Connection ω) ClientError ω Nat :=
  ⟨fun b => (bus.drain b.rounds).run b⟩

/-- Dispatches until the bus fails. A bus that does not hang up never fails; it is left when nothing
is left to handle. -/
def dispatch : Action (Connection ω) ClientError ω Unit :=
  ⟨fun b => (bus.dispatch b.rounds).run b⟩

/-- Makes a connection to the bus and for the service that the settings name. The name of the
service is looked at first. -/
def connect (settings : Settings) (host? : Option Host) (script : Script) :
    Action β ClientError ω (Connection ω) := do
  if BusName.isValid settings.service then
    match host? with
    | none => Action.fail (.transport .unreachable)
    | some host =>
      if host.kind = settings.bus then
        Action.log .debug .bus
          ("connected to " ++ settings.bus.name ++ " bus as " ++ uniqueName ++ ", service " ++
            settings.service)
        return fresh settings host.remote script
      else Action.fail (.transport .unreachable)
  else Action.fail (.badService settings.service)

end Connection

end Positioning
