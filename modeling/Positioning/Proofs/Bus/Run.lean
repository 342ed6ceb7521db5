import Positioning.Bus.Local
import Positioning.Proofs.Bus.Delivery

/-!
# Runs of the bus inside the process

Whatever happens to a local bus is an operation: scripting the daemon, emitting a signal, calling a
method, subscribing, unsubscribing and handing signals on. A run is a list of operations, each
performed in the state that the one before it leaves, also when that one was refused or crashed.
Clients and sessions are runs too.

## Main definitions

- `Operation` is one operation, `Operation.perform` what it does.
- `Daemon.serve` is what a call comes to.
- `Moment` is an operation with the bus that it finds. `moments` lists the moments of a run, and
  all that can be observed of a run is read off them: results, effects, messages.
- `LocalBus.after` is the bus after a run, `LocalBus.Reachable` says that it is one from the start.

## Main statements

- `LocalBus.run_drain`: draining hands on what is in the queue and no more.
- `LocalBus.effects_moments`: what is done in a run is done by the handlers that it runs.
- `Moment.queue_eq` and `LocalBus.queue_after`: no message is lost or made but by emitting it.
-/

namespace Positioning

open Wire

/-- What can be done to a local bus. -/
inductive Operation (ω : Type) where
  | addDevice (device : String)
  | setKnown (known : List String)
  | updateDevice (device : String) (f : DeviceState → DeviceState)
  | emit (m : Message)
  | emitFor (device : String) (kind : SignalKind) (payload : kind.Payload)
  | call (c : MethodCall)
  | subscribe (path? : Option ObjectPath) (kind : SignalKind) (handler : Handler kind.Payload ω)
  | unsubscribe (token : Token)
  | process
  | drain

namespace Operation

variable {ω α ε : Type}

/-- What an operation gives. -/
inductive Result where
  | done
  | path (p : ObjectPath)
  | values (vs : List Value)
  | token (t : Token)
  | handedOn (there : Bool)
  | count (n : Nat)

/-- Why an operation gives nothing. -/
inductive Failure where
  | noName (e : NoDeviceName)
  | unknownDevice (e : DeviceUnknown)
  | client (e : ClientError)

/-- A change of the bus that may be refused, and then changes nothing. -/
def ofChange (failure : ε → Failure) (change : LocalBus ω → Except ε (Result × LocalBus ω)) :
    Action (LocalBus ω) Failure ω Result :=
  ⟨fun b =>
    match change b with
    | .ok (result, after) => ⟨.ok result, [], after⟩
    | .error e => ⟨.error (failure e), [], b⟩⟩

/-- An operation of the bus as clients know it. -/
def ofAction (result : α → Result) (x : Action (LocalBus ω) ClientError ω α) :
    Action (LocalBus ω) Failure ω Result :=
  ⟨fun b =>
    let outcome := x.run b
    let ending := match outcome.result with
      | .ok a => .ok (result a)
      | .error e => .error (.client e)
      | .crash c => .crash c
    ⟨ending, outcome.effects, outcome.state⟩⟩

/-- What an operation does. -/
def perform : Operation ω → Action (LocalBus ω) Failure ω Result
  | addDevice device =>
    ofChange .noName fun b => (b.addDevice device).map fun (path, after) => (.path path, after)
  | setKnown known => ⟨fun b => ⟨.ok .done, [], b.setKnown known⟩⟩
  | updateDevice device f =>
    ofChange .unknownDevice fun b => (b.updateDevice device f).map fun after => (.done, after)
  | emit m => ⟨fun b => ⟨.ok .done, [], b.emit m⟩⟩
  | emitFor device kind payload =>
    ofChange .noName fun b => (b.emitFor device kind payload).map fun after => (.done, after)
  | call c => ofAction .values (LocalBus.call c)
  | subscribe path? kind handler => ofAction .token (LocalBus.subscribe path? kind handler)
  | unsubscribe token => ofAction (fun _ => .done) (LocalBus.unsubscribe token)
  | process => ofAction .handedOn LocalBus.process
  | drain => ofAction .count LocalBus.drain

/-- The bus after an operation. -/
def next (o : Operation ω) (b : LocalBus ω) : LocalBus ω :=
  (o.perform.run b).state

/-- Whether an operation ends a subscription. -/
def ends (o : Operation ω) (t : Token) : Bool :=
  match o with
  | unsubscribe token => token = t
  | _ => false

/-- Whether an operation has to do with messages or the daemon, and not with subscriptions. -/
def isTraffic : Operation ω → Bool
  | subscribe .. => false
  | unsubscribe _ => false
  | _ => true

/-- What is no traffic makes or ends a subscription. -/
theorem traffic_or (o : Operation ω) :
    o.isTraffic = true ∨ (∃ path? kind handler, o = subscribe path? kind handler) ∨
      ∃ t, o = unsubscribe t := by
  cases o with
  | subscribe path? kind handler => exact .inr (.inl ⟨path?, kind, handler, rfl⟩)
  | unsubscribe t => exact .inr (.inr ⟨t, rfl⟩)
  | _ => exact .inl rfl

theorem ends_of_isTraffic {o : Operation ω} (h : o.isTraffic = true) (t : Token) :
    o.ends t = false := by
  cases o with
  | unsubscribe _ => simp [isTraffic] at h
  | _ => rfl

theorem ends_eq_true_iff {o : Operation ω} {t : Token} : o.ends t = true ↔ o = .unsubscribe t := by
  cases o <;> simp [ends]

end Operation

/-- An operation, and the bus as it finds it. -/
structure Moment (ω : Type) where
  bus : LocalBus ω
  operation : Operation ω

/-- The moments of a run from a state. -/
def moments {ω : Type} (b : LocalBus ω) : List (Operation ω) → List (Moment ω)
  | [] => []
  | o :: rest => ⟨b, o⟩ :: moments (o.next b) rest

/-- What a call comes to: how it ends, the signals that it makes the daemon emit, and the daemon
that it leaves. -/
structure Served where
  ending : Ending ClientError (List Value)
  signals : List Message
  daemon : Daemon

/-- What a call comes to on a bus with the daemon inside. -/
def Daemon.serve (d : Daemon) (c : MethodCall) : Served :=
  match c.badName? with
  | some e => ⟨.crash (.badName e), [], d⟩
  | none =>
    match d.answer c.carried with
    | .refused f => ⟨.error (.fault f), [], d⟩
    | .crashed after => ⟨.crash .counterFull, [], after⟩
    | .answered a => ⟨.ok a.reply, a.signals, a.daemon⟩

namespace LocalBus

variable {ω : Type}

/-- The bus when the first messages of the queue have been handed on. -/
def handOn (b : LocalBus ω) (n : Nat) : LocalBus ω :=
  { b with
    queue := b.queue.drop n
    subscriptions := Subscription.remainingInTurn (b.queue.take n) b.subscriptions }

/-- What the handlers do when the first messages of the queue are handed on. -/
def handOnEffects (b : LocalBus ω) (n : Nat) : List (Effect ω) :=
  Invocation.effects (Subscription.invocationsInTurn (b.queue.take n) b.subscriptions)

theorem handOn_add (b : LocalBus ω) (n k : Nat) : b.handOn (n + k) = (b.handOn n).handOn k := by
  simp [handOn, List.take_add, List.drop_drop, Subscription.remainingInTurn_append]

theorem handOnEffects_add (b : LocalBus ω) (n k : Nat) :
    b.handOnEffects (n + k) = b.handOnEffects n ++ (b.handOn n).handOnEffects k := by
  simp [handOnEffects, handOn, List.take_add, Subscription.invocationsInTurn_append]

/-- Processing hands on the oldest message, if there is one. -/
theorem run_process (b : LocalBus ω) :
    process.run b = ⟨.ok (!b.queue.isEmpty), b.handOnEffects 1, b.handOn 1⟩ := by
  cases hqueue : b.queue with
  | nil =>
    cases b
    cases hqueue
    rfl
  | cons m rest =>
    simp [process, hqueue, handOn, handOnEffects, Subscription.effects_deliverAll,
      Subscription.remainingInTurn, Subscription.invocationsInTurn]

/-- Processing more often than there are messages hands all of them on and counts them. -/
theorem run_drain_of_lt {b : LocalBus ω} {rounds : Nat} (h : b.queue.length < rounds) :
    (bus.drain rounds).run b =
      ⟨.ok b.queue.length, b.handOnEffects b.queue.length, b.handOn b.queue.length⟩ := by
  induction rounds generalizing b with
  | zero => omega
  | succ rounds ih =>
    have hprocess : (bus.process.run b) = _ := run_process b
    cases hqueue : b.queue with
    | nil =>
      rw [Bus.drain, Action.run_bind_of_ok _ (by rw [hprocess]), hprocess]
      simp [hqueue, handOn, handOnEffects, Subscription.remainingInTurn,
        Subscription.invocationsInTurn]
    | cons m rest =>
      -- One round hands on the first message, the others are left to the remaining rounds.
      have hlength : (b.handOn 1).queue.length = rest.length := by simp [handOn, hqueue]
      have hrest := ih (b := b.handOn 1) (by rw [hlength]; simp [hqueue] at h; omega)
      rw [hlength] at hrest
      rw [Bus.drain, Action.run_bind_of_ok _ (by rw [hprocess]), hprocess]
      simp only [hqueue, List.isEmpty_cons, Bool.not_false, if_true]
      rw [Action.run_bind_of_ok _ (by rw [hrest]), hrest, List.length_cons,
        Nat.add_comm rest.length 1, handOn_add, handOnEffects_add]
      simp [Nat.add_comm]

/-- Draining hands on what is in the queue, and no more. -/
theorem run_drain (b : LocalBus ω) :
    drain.run b = ⟨.ok b.queue.length, b.handOnEffects b.queue.length, b.handOn b.queue.length⟩ :=
  run_drain_of_lt (Nat.lt_succ_self b.queue.length)

end LocalBus

namespace LocalBus

variable {ω : Type}

/-- The bus after a run. -/
def after (b : LocalBus ω) : List (Operation ω) → LocalBus ω
  | [] => b
  | o :: rest => (o.next b).after rest

/-- A state that some run from the start leads to. -/
inductive Reachable : LocalBus ω → Prop where
  | initial : Reachable .initial
  | next {b : LocalBus ω} (h : Reachable b) (o : Operation ω) : Reachable (o.next b)

theorem after_append (b : LocalBus ω) (xs ys : List (Operation ω)) :
    b.after (xs ++ ys) = (b.after xs).after ys := by
  induction xs generalizing b with
  | nil => rfl
  | cons x xs ih => exact ih (x.next b)

theorem moments_append (b : LocalBus ω) (xs ys : List (Operation ω)) :
    moments b (xs ++ ys) = moments b xs ++ moments (b.after xs) ys := by
  induction xs generalizing b with
  | nil => rfl
  | cons x xs ih => exact congrArg (⟨b, x⟩ :: ·) (ih (x.next b))

/-- A moment of a run stands between what comes before it and what comes after it. -/
theorem exists_of_mem_moments {b : LocalBus ω} {ops : List (Operation ω)} {i : Moment ω}
    (hi : i ∈ moments b ops) :
    ∃ before later, ops = before ++ i.operation :: later ∧ i.bus = b.after before := by
  induction ops generalizing b with
  | nil => exact absurd hi List.not_mem_nil
  | cons o ops ih =>
    rcases List.mem_cons.mp hi with rfl | hrest
    · exact ⟨[], ops, rfl, rfl⟩
    · obtain ⟨before, later, hops, hbus⟩ := ih hrest
      exact ⟨o :: before, later, congrArg (o :: ·) hops, hbus⟩

theorem Reachable.after {b : LocalBus ω} (h : b.Reachable) (ops : List (Operation ω)) :
    (b.after ops).Reachable := by
  induction ops generalizing b with
  | nil => exact h
  | cons o ops ih => exact ih (h.next o)

theorem reachable_iff {b : LocalBus ω} : b.Reachable ↔ ∃ ops, LocalBus.initial.after ops = b := by
  constructor
  · intro h
    induction h with
    | initial => exact ⟨[], rfl⟩
    | @next b _ o ih =>
      obtain ⟨ops, rfl⟩ := ih
      exact ⟨ops ++ [o], after_append _ ops [o]⟩
  · rintro ⟨ops, rfl⟩
    exact Reachable.initial.after ops

end LocalBus

namespace Moment

variable {ω : Type}

/-- What is left of the operation. -/
def outcome (i : Moment ω) : Outcome (LocalBus ω) Operation.Failure ω Operation.Result :=
  i.operation.perform.run i.bus

/-- The messages that the operation hands on. -/
def processed (i : Moment ω) : List Message :=
  match i.operation with
  | .process => i.bus.queue.take 1
  | .drain => i.bus.queue
  | _ => []

/-- The messages that the operation puts into the queue. -/
def queued (i : Moment ω) : List Message :=
  match i.operation with
  | .emit m => [m]
  | .emitFor device kind payload =>
    match ObjectPath.ofDevice device with
    | .ok path => [kind.message path payload]
    | .error _ => []
  | .call c => (i.bus.daemon.serve c).signals
  | _ => []

/-- The runs of handlers that the operation causes. -/
def invocations (i : Moment ω) : List (Invocation ω) :=
  Subscription.invocationsInTurn i.processed i.bus.subscriptions

end Moment

/-! ## What one operation changes -/

namespace LocalBus

variable {ω : Type}

/-- A call is served by the daemon and written into the journal; the signals of its answer come
behind those in the queue. -/
theorem run_call (c : MethodCall) (b : LocalBus ω) :
    (call c).run b =
      ⟨(b.daemon.serve c).ending, [],
        { b with
          daemon := (b.daemon.serve c).daemon
          journal := b.journal ++ if c.badName?.isSome then [] else [.call c]
          queue := b.queue ++ (b.daemon.serve c).signals }⟩ := by
  unfold call Daemon.serve
  dsimp only [note]
  cases c.badName? with
  | some e => simp
  | none => cases b.daemon.answer c.carried <;> simp

theorem next_addDevice (device : String) (b : LocalBus ω) :
    (Operation.addDevice device).next b =
      match ObjectPath.ofDevice device with
      | .ok path => { b with daemon := b.daemon.addDeviceAt path }
      | .error _ => b := by
  simp only [Operation.next, Operation.perform, Operation.ofChange, addDevice, Daemon.addDevice]
  cases ObjectPath.ofDevice device <;> rfl

theorem next_updateDevice (device : String) (f : DeviceState → DeviceState) (b : LocalBus ω) :
    (Operation.updateDevice device f).next b =
      match b.daemon.updateDevice device f with
      | .ok daemon => { b with daemon }
      | .error _ => b := by
  simp only [Operation.next, Operation.perform, Operation.ofChange, updateDevice]
  cases b.daemon.updateDevice device f <;> rfl

theorem next_emitFor (device : String) (kind : SignalKind) (payload : kind.Payload)
    (b : LocalBus ω) :
    (Operation.emitFor device kind payload).next b =
      { b with queue := b.queue ++ Moment.queued ⟨b, .emitFor device kind payload⟩ } := by
  simp only [Operation.next, Operation.perform, Operation.ofChange, emitFor, Moment.queued]
  cases ObjectPath.ofDevice device with
  | ok path => rfl
  | error e => simp [Except.map]

/-- Calling touches the daemon, the journal and the queue. -/
theorem next_call (c : MethodCall) (b : LocalBus ω) :
    (Operation.call c).next b =
      { b with
        daemon := (b.daemon.serve c).daemon
        journal := b.journal ++ if c.badName?.isSome then [] else [.call c]
        queue := b.queue ++ (b.daemon.serve c).signals } := by
  simp only [Operation.next, Operation.perform, Operation.ofAction, run_call]

/-- Subscribing adds a subscription behind the others, under a token of its own. -/
theorem next_subscribe (path? : Option ObjectPath) (kind : SignalKind)
    (handler : Handler kind.Payload ω) (b : LocalBus ω) :
    (Operation.subscribe path? kind handler).next b =
      { b with
        journal := b.journal ++ [.subscribe ⟨path?, kind⟩]
        subscriptions := b.subscriptions ++ [.fresh ⟨b.nextToken⟩ ⟨path?, kind⟩ handler]
        nextToken := b.nextToken + 1 } :=
  rfl

theorem next_unsubscribe (t : Token) (b : LocalBus ω) :
    (Operation.unsubscribe t).next b =
      { b with
        journal := b.journal ++ [.unsubscribe t]
        subscriptions := b.subscriptions.filter fun s => s.token ≠ t } :=
  rfl

theorem next_process (b : LocalBus ω) : (Operation.process).next b = b.handOn 1 := by
  simp only [Operation.next, Operation.perform, Operation.ofAction, run_process]

theorem next_drain (b : LocalBus ω) : (Operation.drain).next b = b.handOn b.queue.length := by
  simp only [Operation.next, Operation.perform, Operation.ofAction, run_drain]

end LocalBus

namespace Moment

variable {ω : Type}

/-- Nothing has effects but the handlers that the operation runs. -/
theorem effects_outcome (i : Moment ω) :
    i.outcome.effects = Invocation.effects i.invocations := by
  obtain ⟨b, o⟩ := i
  cases o with
  | addDevice device =>
    unfold outcome Operation.perform Operation.ofChange
    dsimp only
    split <;> rfl
  | updateDevice device f =>
    unfold outcome Operation.perform Operation.ofChange
    dsimp only
    split <;> rfl
  | emitFor device kind payload =>
    unfold outcome Operation.perform Operation.ofChange
    dsimp only
    split <;> rfl
  | call c => simp only [outcome, Operation.perform, Operation.ofAction, LocalBus.run_call]; rfl
  | process =>
    simp only [outcome, Operation.perform, Operation.ofAction, LocalBus.run_process]
    rfl
  | drain =>
    simp only [outcome, Operation.perform, Operation.ofAction, LocalBus.run_drain,
      LocalBus.handOnEffects, List.take_length]
    rfl
  | setKnown _ => rfl
  | emit _ => rfl
  | subscribe _ _ _ => rfl
  | unsubscribe _ => rfl

/-- A call gives what it comes to on the daemon. -/
theorem result_call (b : LocalBus ω) (c : MethodCall) :
    (Moment.outcome ⟨b, .call c⟩).result =
      match (b.daemon.serve c).ending with
      | .ok values => .ok (.values values)
      | .error e => .error (.client e)
      | .crash k => .crash k := by
  simp only [outcome, Operation.perform, Operation.ofAction, LocalBus.run_call]
  cases (b.daemon.serve c).ending <;> rfl

/-- A signal that is emitted for a device comes from the path of the device. -/
theorem mem_queued_emitFor_iff {b : LocalBus ω} {device : String} {kind : SignalKind}
    {payload : kind.Payload} {m : Message} :
    m ∈ queued ⟨b, .emitFor device kind payload⟩ ↔
      ∃ path, ObjectPath.ofDevice device = .ok path ∧ m = kind.message path payload := by
  simp only [queued]
  cases ObjectPath.ofDevice device <;> simp

/-- No message is lost from the queue but by handing it on, or comes into it but by queueing. -/
theorem queue_eq (i : Moment ω) :
    i.bus.queue ++ i.queued = i.processed ++ (i.operation.next i.bus).queue := by
  obtain ⟨b, o⟩ := i
  cases o with
  | addDevice device =>
    rw [LocalBus.next_addDevice]
    split <;> simp [queued, processed]
  | updateDevice device f =>
    rw [LocalBus.next_updateDevice]
    split <;> simp [queued, processed]
  | emitFor device kind payload => rw [LocalBus.next_emitFor]; rfl
  | call c => rw [LocalBus.next_call]; rfl
  | process =>
    simp only [LocalBus.next_process, queued, processed, LocalBus.handOn, List.append_nil,
      List.take_append_drop]
  | drain => simp [LocalBus.next_drain, queued, processed, LocalBus.handOn]
  | setKnown known => simp [Operation.next, Operation.perform, LocalBus.setKnown, queued, processed]
  | emit m => rfl
  | subscribe path? kind handler => simp [LocalBus.next_subscribe, queued, processed]
  | unsubscribe t => simp [LocalBus.next_unsubscribe, queued, processed]

end Moment

namespace LocalBus

variable {ω : Type}

/-- What is done in a run is what the handlers do that it runs, in their order. -/
theorem effects_moments (b : LocalBus ω) (ops : List (Operation ω)) :
    (moments b ops).flatMap (fun i => i.outcome.effects) =
      Invocation.effects ((moments b ops).flatMap Moment.invocations) := by
  simp only [Moment.effects_outcome, Invocation.effects, List.flatMap_assoc]

/-- What waits in the queue and what a run queues is handed on, or still waits, in order. -/
theorem queue_after (b : LocalBus ω) (ops : List (Operation ω)) :
    b.queue ++ (moments b ops).flatMap Moment.queued =
      (moments b ops).flatMap Moment.processed ++ (b.after ops).queue := by
  induction ops generalizing b with
  | nil => exact List.append_nil _
  | cons o ops ih =>
    have hfirst := Moment.queue_eq ⟨b, o⟩
    rw [moments, List.flatMap_cons, List.flatMap_cons, ← List.append_assoc, hfirst,
      List.append_assoc, ih (o.next b), ← List.append_assoc]
    rfl

/-- When nothing waits any more, everything has been handed on. -/
theorem processed_of_queue_eq_nil {b : LocalBus ω} {ops : List (Operation ω)}
    (h : (b.after ops).queue = []) :
    (moments b ops).flatMap Moment.processed =
      b.queue ++ (moments b ops).flatMap Moment.queued := by
  rw [queue_after, h, List.append_nil]

theorem queue_after_drain (b : LocalBus ω) (ops : List (Operation ω)) :
    (b.after (ops ++ [.drain])).queue = [] := by
  rw [after_append, after, after, next_drain, handOn, List.drop_length]

end LocalBus

end Positioning
