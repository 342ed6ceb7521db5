import Positioning.Proofs.Bus.Clients
import Positioning.Proofs.Bus.Tokens
import Positioning.Proofs.Daemon.Getters
import Positioning.Proofs.Daemon.Switches

/-!
# The history of a connection

A device tells of its connection where there is a change, and not at every start and stop. So what
it tells in a run alternates, and ends with the connection that is stored and that a getter gives.
This is so while only starting and stopping change the connection and tell of it: the state of a
device can be replaced or rewritten without a signal, and a signal can be made without a change.

What a device told before a run may still wait when the run begins. A handler that listens is given
that first, and it need not agree with what the device is then.

## Main definitions

- `Operation.SparesConnection` says that an operation leaves the connection of a device to starting
  and stopping.
- `Moment.switches` and `Moment.reconnects` pick the calls that start or stop a device, and those of
  them that change its connection.
- `LocalBus.Tells` is what a run makes of the connection of a device.

## Main statements

- `LocalBus.exists_tells_single`: what one operation tells, and `LocalBus.exists_tells` a run.
- `LocalBus.connection_history`: the history in the queue, in the daemon and in the handlers.
-/

namespace Positioning

open Wire

variable {ω : Type}

/-! ## Alternation -/

theorem isChain_append_of_getLastD {α : Type} {R : α → α → Prop} {a : α} {xs ys : List α}
    (hxs : (a :: xs).IsChain R) (hys : (xs.getLastD a :: ys).IsChain R) :
    (a :: (xs ++ ys)).IsChain R := by
  -- The join is at the last element of the first part, so the first element varies.
  induction xs generalizing a with
  | nil => exact hys
  | cons x xs ih =>
    obtain ⟨hax, hrest⟩ := List.isChain_cons_cons.mp hxs
    rw [List.getLastD_cons] at hys
    exact List.isChain_cons_cons.mpr ⟨hax, ih hrest hys⟩

theorem getLastD_append {α : Type} (a : α) (xs ys : List α) :
    (xs ++ ys).getLastD a = ys.getLastD (xs.getLastD a) := by
  induction xs generalizing a with
  | nil => rfl
  | cons x xs ih => rw [List.cons_append, List.getLastD_cons, List.getLastD_cons, ih]

/-! ## Signals of the connection -/

/-- The signal that tells whether the device at a path is connected. -/
def Message.ofConnection (path : ObjectPath) (connected : Bool) : Message :=
  SignalKind.connectionStatusChanged.message path connected

namespace MatchRule

/-- Selects the signals that tell of the connection of the device at a path. -/
def connectionOf (path : ObjectPath) : MatchRule :=
  ⟨some path, .connectionStatusChanged⟩

/-- What a message tells of the connection of the device at a path. -/
def connection? (path : ObjectPath) (m : Message) : Option Bool :=
  (connectionOf path).read? m

theorem selects_connectionOf_iff {path : ObjectPath} {m : Message} :
    (connectionOf path).selects m = true ↔
      m.path = path ∧ SignalKind.connectionStatusChanged.isNamedBy m = true := by
  simp only [selects, connectionOf, Option.all_some, Bool.and_eq_true, decide_eq_true_eq]
  exact and_congr_left' eq_comm

theorem selects_connectionOf {path : ObjectPath} (hpath : path.carried = path) (connected : Bool) :
    (connectionOf path).selects (.ofConnection path connected) = true := by
  refine selects_connectionOf_iff.mpr ⟨hpath, ?_⟩
  simp [Message.ofConnection, SignalKind.message, SignalKind.isNamedBy]

theorem connection?_ofConnection {path : ObjectPath} (hpath : path.carried = path)
    (connected : Bool) : connection? path (.ofConnection path connected) = some connected := by
  unfold connection? read?
  rw [if_pos (selects_connectionOf hpath connected)]
  rfl

/-- What messages tell is read off those among them that the rule selects. -/
theorem filterMap_connection? {path : ObjectPath} (hpath : path.carried = path) {ms : List Message}
    {history : List Bool}
    (h : ms.filter (connectionOf path).selects = history.map (.ofConnection path)) :
    ms.filterMap (connection? path) = history := by
  have hselected : ∀ m, connection? path m =
      if (connectionOf path).selects m then connection? path m else none := by
    intro m
    by_cases hm : (connectionOf path).selects m = true
    · exact (if_pos hm).symm
    · exact (if_neg hm).trans (if_neg hm).symm
  calc ms.filterMap (connection? path)
      = (ms.filter (connectionOf path).selects).filterMap (connection? path) := by
        rw [List.filterMap_filter]
        exact congrArg (List.filterMap · ms) (funext hselected)
    _ = history.filterMap some := by
        rw [h, List.filterMap_map]
        exact congrArg (List.filterMap · history) (funext (connection?_ofConnection hpath))
    _ = history := List.filterMap_some

end MatchRule

/-! ## Operations -/

/-- The operation leaves it to starting and stopping to change the connection of the device at a
path, to count, and to tell of it. -/
def Operation.SparesConnection (path : ObjectPath) : Operation ω → Prop
  | .addDevice device => ObjectPath.ofDevice device ≠ .ok path
  | .updateDevice device f =>
    ObjectPath.ofDevice device = .ok path →
      ∀ s, (f s).connected = s.connected ∧ (f s).started = s.started ∧ (f s).stopped = s.stopped
  | .emit m => (MatchRule.connectionOf path).selects m = false
  | .emitFor device kind _ =>
    ObjectPath.ofDevice device = .ok path → kind ≠ .connectionStatusChanged
  | _ => True

theorem Operation.sparesConnection_of_isRequest {o : Operation ω} (h : o.isRequest = true)
    (path : ObjectPath) : o.SparesConnection path := by
  cases o with
  | call c => trivial
  | subscribe path? kind handler => trivial
  | _ => cases h

/-- Whether the device at a path is connected, if it is there. -/
def Daemon.connected? (d : Daemon) (path : ObjectPath) : Option Bool :=
  (d.devices.get? path).map fun state => state.connected

namespace Moment

/-- The operation is a call of a method of the device at a path, and is answered. -/
def switches (m : Method) (path : ObjectPath) (i : Moment ω) : Bool :=
  match i.operation, i.outcome.result with
  | .call c, .ok _ => c.carried.path = path && c.carried.names m
  | _, _ => false

/-- The operation is a call that starts or stops the device at a path, and changes whether it is
connected. -/
def reconnects (path : ObjectPath) (i : Moment ω) : Bool :=
  match i.operation with
  | .call c =>
    c.carried.path = path && (c.carried.names .start || c.carried.names .stop) &&
      i.bus.daemon.connected? path ≠ (i.operation.next i.bus).daemon.connected? path
  | _ => false

theorem switches_call_iff {b : LocalBus ω} {c : MethodCall} {m : Method} {path : ObjectPath} :
    switches m path ⟨b, .call c⟩ = true ↔
      c.carried.path = path ∧ c.carried.names m = true ∧
        ∃ values, (b.daemon.serve c).ending = .ok values := by
  unfold switches
  rw [result_call]
  cases (b.daemon.serve c).ending <;> simp

end Moment

/-- A scripted signal of another kind, or from another device, tells nothing of the connection. -/
theorem Operation.SparesConnection.not_selects {b : LocalBus ω} {device : String}
    {kind : SignalKind} {payload : kind.Payload} {path : ObjectPath}
    (h : (emitFor device kind payload : Operation ω).SparesConnection path) {m : Message}
    (hm : m ∈ Moment.queued ⟨b, emitFor device kind payload⟩) :
    (MatchRule.connectionOf path).selects m = false := by
  obtain ⟨other, hdevice, rfl⟩ := Moment.mem_queued_emitFor_iff.mp hm
  by_contra hselects
  obtain ⟨hpath, hnamed⟩ := MatchRule.selects_connectionOf_iff.mp (eq_true_of_ne_false hselects)
  have hother : other = path := by
    rw [← hpath]
    exact (ObjectPath.carried_of_ofDevice hdevice).symm
  have hmember : kind.member = SignalKind.connectionStatusChanged.member := by
    simp only [SignalKind.isNamedBy, Bool.and_eq_true, decide_eq_true_eq] at hnamed
    exact hnamed.2
  exact h (hother ▸ hdevice) (SignalKind.member_injective hmember)

namespace LocalBus

/-! ## What is told -/

/-- What a run makes of the connection of the device at a path: it leaves the device in the state
`after`, and tells the history, which is that of the calls that change the connection. Starts and
stops are counted whether they change anything or not. -/
structure Tells (b : LocalBus ω) (ops : List (Operation ω)) (path : ObjectPath)
    (before after : DeviceState) (history : List Bool) : Prop where
  device : (b.after ops).daemon.devices.get? path = some after
  told : ((moments b ops).flatMap Moment.queued).filter (MatchRule.connectionOf path).selects =
    history.map (.ofConnection path)
  alternates : (before.connected :: history).IsChain (· ≠ ·)
  last : history.getLastD before.connected = after.connected
  changes : history.length = (moments b ops).countP (Moment.reconnects path)
  started : after.started.toNat =
    before.started.toNat + (moments b ops).countP (Moment.switches .start path)
  stopped : after.stopped.toNat =
    before.stopped.toNat + (moments b ops).countP (Moment.switches .stop path)

variable {b : LocalBus ω} {o : Operation ω} {path : ObjectPath} {before after : DeviceState}

theorem tells_nil (hdevice : b.daemon.devices.get? path = some before) :
    b.Tells [] path before before [] :=
  ⟨hdevice, rfl, .singleton _, rfl, rfl, rfl, rfl⟩

/-- What one run tells after another continues its history. -/
theorem Tells.append {xs ys : List (Operation ω)} {between : DeviceState}
    {history later : List Bool} (hxs : b.Tells xs path before between history)
    (hys : (b.after xs).Tells ys path between after later) :
    b.Tells (xs ++ ys) path before after (history ++ later) := by
  constructor
  · rw [after_append]
    exact hys.device
  · rw [moments_append, List.flatMap_append, List.filter_append, hxs.told, hys.told,
      List.map_append]
  · have hlater := hys.alternates
    rw [← hxs.last] at hlater
    exact isChain_append_of_getLastD hxs.alternates hlater
  · rw [getLastD_append, hxs.last, hys.last]
  · rw [List.length_append, moments_append, List.countP_append, hxs.changes, hys.changes]
  · rw [hys.started, hxs.started, moments_append, List.countP_append, Nat.add_assoc]
  · rw [hys.stopped, hxs.stopped, moments_append, List.countP_append, Nat.add_assoc]

/-- An operation tells nothing that leaves the connection and the counts of the device, and queues
no signal of its connection, if it is no answered call that starts or stops it. -/
theorem tells_nothing (hdevice : (o.next b).daemon.devices.get? path = some after)
    (hconnected : after.connected = before.connected) (hstarted : after.started = before.started)
    (hstopped : after.stopped = before.stopped)
    (hqueued : ∀ m ∈ Moment.queued ⟨b, o⟩, (MatchRule.connectionOf path).selects m = false)
    (hreconnects : Moment.reconnects path ⟨b, o⟩ = false)
    (hswitches : ∀ m, m.isSwitch = true → Moment.switches m path ⟨b, o⟩ = false) :
    b.Tells [o] path before after [] := by
  have hmoments : moments b [o] = [⟨b, o⟩] := rfl
  refine ⟨hdevice, ?_, .singleton _, hconnected.symm, ?_, ?_, ?_⟩
  · rw [hmoments, List.flatMap_singleton, List.map_nil]
    exact List.filter_eq_nil_iff.mpr fun m hm => by simp [hqueued m hm]
  · simp [hmoments, hreconnects]
  · simp [hmoments, hstarted, hswitches .start rfl]
  · simp [hmoments, hstopped, hswitches .stop rfl]

section Switched

variable {c : MethodCall} {m : Method}

theorem device_of_switches (hc : c.carried.path = path) (h : b.daemon.Switches c m before) :
    ((Operation.call c).next b).daemon.devices.get? path = some (before.switched m) := by
  have hdaemon : ((Operation.call c).next b).daemon =
      { b.daemon with devices := b.daemon.devices.put path (before.switched m) } := by
    rw [next_call, h.serve, hc]
    rfl
  rw [hdaemon, Table.get?_put, if_pos rfl]

theorem queued_of_switches (hc : c.carried.path = path) (h : b.daemon.Switches c m before) :
    Moment.queued ⟨b, .call c⟩ =
      if before.connected = (before.switched m).connected then []
      else [.ofConnection path (before.switched m).connected] := by
  have hsignals : Moment.queued ⟨b, .call c⟩ = (b.daemon.serve c).signals := rfl
  rw [hsignals, h.serve, hc]
  rfl

/-- A call that switches the device is answered, and counts for its own method and no other. -/
theorem switches_iff_of_switches (hc : c.carried.path = path) (h : b.daemon.Switches c m before)
    (n : Method) : Moment.switches n path ⟨b, .call c⟩ = true ↔ n = m := by
  rw [Moment.switches_call_iff, h.serve]
  constructor
  · rintro ⟨_, hnames, _⟩
    exact MethodCall.names_unique hnames h.names
  · rintro rfl
    exact ⟨hc, h.names, _, rfl⟩

theorem reconnects_of_switches (hc : c.carried.path = path) (h : b.daemon.Switches c m before) :
    Moment.reconnects path ⟨b, .call c⟩ =
      decide (before.connected ≠ (before.switched m).connected) := by
  have hbefore : b.daemon.devices.get? path = some before := hc ▸ h.device
  have hnames : (c.carried.names .start || c.carried.names .stop) = true := by
    have hm := h.isSwitch
    have hnamed := h.names
    rw [Bool.or_eq_true]
    cases m with
    | start => exact .inl hnamed
    | stop => exact .inr hnamed
    | _ => cases hm
  simp [Moment.reconnects, hc, hnames, Daemon.connected?, hbefore, device_of_switches hc h]

/-- A call that switches the device tells of the change, if there is one. -/
theorem tells_switched (hpath : path.carried = path) (hc : c.carried.path = path)
    (h : b.daemon.Switches c m before) :
    b.Tells [.call c] path before (before.switched m)
      (if before.connected = (before.switched m).connected then []
        else [(before.switched m).connected]) := by
  have hmoments : moments b [.call c] = [⟨b, .call c⟩] := rfl
  have hcounts : ∀ n,
      (moments b [.call c]).countP (Moment.switches n path) = if n = m then 1 else 0 := by
    intro n
    rw [hmoments, List.countP_singleton]
    exact if_congr (switches_iff_of_switches hc h n) rfl rfl
  have htimes := fun n hn => DeviceState.times_switched (n := n) h.isSwitch hn h.room
  refine ⟨device_of_switches hc h, ?_, ?_, ?_, ?_, ?_, ?_⟩
  · rw [hmoments, List.flatMap_singleton, queued_of_switches hc h]
    split
    · rfl
    · exact List.filter_cons_of_pos (MatchRule.selects_connectionOf hpath _)
  · split
    · exact .singleton _
    · next hchanged => exact List.isChain_cons_cons.mpr ⟨hchanged, .singleton _⟩
  · split
    · assumption
    · rfl
  · rw [hmoments, List.countP_singleton, reconnects_of_switches hc h]
    split <;> simp_all
  · rw [hcounts .start]
    exact htimes .start rfl
  · rw [hcounts .stop]
    exact htimes .stop rfl

end Switched

/-- An operation that spares the connection makes of it what its calls on the device do. -/
theorem exists_tells_single (hpath : path.carried = path) (hspares : o.SparesConnection path)
    (hdevice : b.daemon.devices.get? path = some before) :
    ∃ after history, b.Tells [o] path before after history := by
  have hdaemon : (o.next b).daemon = o.daemonAfter b.daemon := daemon_next o b
  cases o with
  | call c =>
    -- At the path a call switches the device or is idle; elsewhere it does not concern the device.
    by_cases hc : c.carried.path = path
    · rcases b.daemon.switches_or_idle c with ⟨m, state, hswitches⟩ | ⟨hdevices, hsignals, hidle⟩
      · obtain rfl : before = state :=
          Option.some.inj (hdevice.symm.trans (hc ▸ hswitches.device))
        exact ⟨_, _, tells_switched hpath hc hswitches⟩
      · have hsame : ((Operation.call c).next b).daemon.devices.get? path = some before := by
          rw [hdaemon, Operation.daemonAfter, hdevices, hdevice]
        refine ⟨before, [], tells_nothing hsame rfl rfl rfl ?_ ?_ fun m hm => ?_⟩
        · rw [show Moment.queued ⟨b, .call c⟩ = [] from hsignals]
          exact List.forall_mem_nil _
        · simp [Moment.reconnects, Daemon.connected?, hsame, hdevice]
        · rw [← Bool.not_eq_true, Moment.switches_call_iff]
          rintro ⟨_, hnames, values, hending⟩
          exact hidle m hm hnames values hending
    · obtain ⟨hserve, hsignals⟩ := b.daemon.serve_elsewhere hc
      have hsame : ((Operation.call c).next b).daemon.devices.get? path = some before := by
        rw [hdaemon, Operation.daemonAfter, hserve, hdevice]
      refine ⟨before, [], tells_nothing hsame rfl rfl rfl (fun m hm => ?_) ?_ fun m _ => ?_⟩
      · by_contra hselects
        exact hsignals m hm
          (MatchRule.selects_connectionOf_iff.mp (eq_true_of_ne_false hselects)).1
      · simp [Moment.reconnects, hc]
      · rw [← Bool.not_eq_true, Moment.switches_call_iff]
        exact fun h => hc h.1
  | addDevice device =>
    have hsame : ((Operation.addDevice device).next b).daemon.devices.get? path = some before := by
      rw [hdaemon, Operation.get?_daemonAfter_addDevice_of_ne hspares, hdevice]
    exact ⟨before, [], tells_nothing hsame rfl rfl rfl (List.forall_mem_nil _) rfl fun _ _ => rfl⟩
  | updateDevice device f =>
    by_cases hname : ObjectPath.ofDevice device = .ok path
    · -- The device is rewritten, but not in what is told or counted.
      obtain ⟨hconnected, hstarted, hstopped⟩ := hspares hname before
      have hafter : ((Operation.updateDevice device f).next b).daemon.devices.get? path =
          some (f before) := by
        rw [hdaemon, Operation.get?_daemonAfter_updateDevice hname, hdevice]
        rfl
      exact ⟨f before, [], tells_nothing hafter hconnected hstarted hstopped
        (List.forall_mem_nil _) rfl fun _ _ => rfl⟩
    · have hsame : ((Operation.updateDevice device f).next b).daemon.devices.get? path =
          some before := by
        rw [hdaemon, Operation.get?_daemonAfter_updateDevice_of_ne hname, hdevice]
      exact ⟨before, [], tells_nothing hsame rfl rfl rfl (List.forall_mem_nil _) rfl
        fun _ _ => rfl⟩
  | emit m =>
    refine ⟨before, [], tells_nothing (hdaemon ▸ hdevice) rfl rfl rfl (fun message hm => ?_) rfl
      fun _ _ => rfl⟩
    rw [List.mem_singleton.mp hm]
    exact hspares
  | emitFor device kind payload =>
    exact ⟨before, [], tells_nothing (hdaemon ▸ hdevice) rfl rfl rfl
      (fun _ hm => hspares.not_selects hm) rfl fun _ _ => rfl⟩
  | _ =>
    exact ⟨before, [], tells_nothing (hdaemon ▸ hdevice) rfl rfl rfl (List.forall_mem_nil _) rfl
      fun _ _ => rfl⟩

/-- A run that spares the connection tells every change of it. -/
theorem exists_tells (hpath : path.carried = path) {ops : List (Operation ω)}
    (hspares : ∀ o ∈ ops, o.SparesConnection path)
    (hdevice : b.daemon.devices.get? path = some before) :
    ∃ after history, b.Tells ops path before after history := by
  -- What the rest tells begins with the state in which the first operation leaves the device.
  induction ops generalizing b before with
  | nil => exact ⟨before, [], tells_nil hdevice⟩
  | cons o ops ih =>
    obtain ⟨between, first, hfirst⟩ :=
      exists_tells_single hpath (hspares o (List.mem_cons_self ..)) hdevice
    obtain ⟨after, rest, hrest⟩ :=
      ih (fun o' ho' => hspares o' (List.mem_cons_of_mem _ ho')) hfirst.device
    exact ⟨after, first ++ rest, hfirst.append hrest⟩

/-! ## What is stored, and what is heard -/

theorem Reachable.run_connectionStatus (hb : b.Reachable)
    (hdevice : b.daemon.devices.get? path = some before) :
    ((Client.connectionStatus bus path).run b).result = .ok before.connected :=
  congrArg Outcome.result (hb.run_get hdevice .connection)

end LocalBus

/-- A subscription to what the device at a path tells of its connection. -/
def Subscription.toConnection (token : Token) (path : ObjectPath) (received : List Bool)
    (handler : Handler Bool ω) : Subscription ω :=
  ⟨token, .connectionOf path, received, handler⟩

/-- The run of a handler that was told of a connection. -/
def Invocation.ofConnection (token : Token) (response : Bool × Reaction ω) : Invocation ω :=
  ⟨token, .connectionStatusChanged, response.1, response.2⟩

namespace LocalBus

variable {b : LocalBus ω} {ops : List (Operation ω)} {path : ObjectPath}
  {before after : DeviceState} {history : List Bool}

/-- When nothing waits any more, a handler that was there at the beginning has been told what waited
then, and then the history. -/
theorem Tells.heard (h : b.Tells ops path before after history) (hb : b.TokensOrdered)
    (hpath : path.carried = path) {token : Token} {received : List Bool} {handler : Handler Bool ω}
    (hs : .toConnection token path received handler ∈ b.subscriptions)
    (hends : Operation.unsubscribe token ∉ ops) (hqueue : (b.after ops).queue = []) :
    let offered := b.queue.filterMap (MatchRule.connection? path) ++ history
    ((moments b ops).flatMap Moment.invocations).filter (fun i => decide (i.token = token)) =
        (handler.responses received offered).map (.ofConnection token) ∧
      (b.after ops).subscriptions.filter (fun s => decide (s.token = token)) =
        if (handler.responses received offered).all (·.2.keep) then
          [.toConnection token path (received ++ offered) handler]
        else [] := by
  intro offered
  have hoffered : ((moments b ops).flatMap Moment.processed).filterMap
      (MatchRule.connection? path) = offered := by
    rw [processed_of_queue_eq_nil hqueue, List.filterMap_append,
      MatchRule.filterMap_connection? hpath h.told]
  obtain ⟨hremaining, hinvocations⟩ := hb.after_of_mem hs hends
  constructor
  · rw [← hoffered]
    exact hinvocations.trans (Subscription.invocationsInTurn_singleton ..)
  · rw [← hoffered]
    exact hremaining.trans (Subscription.remainingInTurn_singleton ..)

/-- **History of a connection.** A device is there in some state that is reached, and a run follows
that leaves its connection to starting and stopping. What is queued of its connection in the run
alternates, beginning with the other value; it ends with the value that is stored and given to
whoever asks. There are as many signals as calls that changed the connection, and every answered
start and stop is counted. Calls of other objects have no part in it. Clients and sessions do what
some such run does. All that is done in the run is done by the handlers that run in it. When nothing
waits any more, a handler that was there before the run has been offered what waited then and after
it the history; that ends with the value that is stored, if there is a history or nothing waited. -/
theorem connection_history (hb : b.Reachable) (hdevice : b.daemon.devices.get? path = some before)
    (hspares : ∀ o ∈ ops, o.SparesConnection path) :
    ∃ after history, b.Tells ops path before after history ∧
      ((Client.connectionStatus bus path).run (b.after ops)).result = .ok after.connected ∧
      (moments b ops).flatMap (fun i => i.outcome.effects) =
        Invocation.effects ((moments b ops).flatMap Moment.invocations) ∧
      (∀ i ∈ moments b ops, ∀ c, i.operation = .call c → c.carried.path ≠ path →
        (i.operation.next i.bus).daemon.devices.get? path = i.bus.daemon.devices.get? path ∧
        ∀ m ∈ i.queued, (MatchRule.connectionOf path).selects m = false) ∧
      (∀ (α : Type) (x : Action (LocalBus ω) ClientError ω α), x.IsRun → ∀ b',
        ∃ ops', (∀ o ∈ ops', o.SparesConnection path) ∧ (x.run b').state = b'.after ops') ∧
      ∀ token received handler, .toConnection token path received handler ∈ b.subscriptions →
        Operation.unsubscribe token ∉ ops → (b.after ops).queue = [] →
        let waiting := b.queue.filterMap (MatchRule.connection? path)
        ((moments b ops).flatMap Moment.invocations).filter (fun i => decide (i.token = token)) =
            (handler.responses received (waiting ++ history)).map (.ofConnection token) ∧
          (b.after ops).subscriptions.filter (fun s => decide (s.token = token)) =
            (if (handler.responses received (waiting ++ history)).all (·.2.keep) then
              [.toConnection token path (received ++ (waiting ++ history)) handler]
            else []) ∧
          (history ≠ [] ∨ waiting = [] →
            (waiting ++ history).getLastD before.connected = after.connected) := by
  have hpath : path.carried = path := hb.carried_path (by simp [Daemon.HasDevice, hdevice])
  obtain ⟨after, history, htells⟩ := exists_tells hpath hspares hdevice
  refine ⟨after, history, htells, (hb.after ops).run_connectionStatus htells.device,
    effects_moments b ops, ?_, ?_, ?_⟩
  · rintro ⟨bus, o⟩ _ c rfl hc
    obtain ⟨hserve, hsignals⟩ := bus.daemon.serve_elsewhere hc
    refine ⟨?_, fun m hm => ?_⟩
    · rw [daemon_next]
      exact hserve
    · by_contra hselects
      exact hsignals m hm
        (MatchRule.selects_connectionOf_iff.mp (eq_true_of_ne_false hselects)).1
  · intro α x hx b'
    obtain ⟨ops', hrequests, hstate, _⟩ := hx b'
    exact ⟨ops', fun o ho => Operation.sparesConnection_of_isRequest (hrequests o ho) path, hstate⟩
  · intro token received handler hs hends hqueue waiting
    obtain ⟨hinvocations, hremaining⟩ := htells.heard hb.tokensOrdered hpath hs hends hqueue
    refine ⟨hinvocations, hremaining, fun hfresh => ?_⟩
    rw [← htells.last]
    rcases hfresh with hchanged | hnone
    · -- The history has a last value of its own, whatever stands before it.
      simp [List.getLastD_eq_getLast?, List.getLast?_append, List.getLast?_eq_some_getLast hchanged]
    · rw [hnone, List.nil_append]

/-- A device whose connection is listened to. -/
def heardAtOnce : LocalBus Bool :=
  LocalBus.initial.after
    [.addDevice "a", .subscribe (some (lettered 'a')) .connectionStatusChanged (.output id)]

/-- Two starts and a stop, while another device is started too. -/
def startedTwice : List (Operation Bool) :=
  [.call (Method.start.callAt (lettered 'a') []), .call (Method.start.callAt (lettered 'a') []),
    .addDevice "b", .call (Method.start.callAt (lettered 'b') []),
    .call (Method.stop.callAt (lettered 'a') []), .drain]

/-- Two starts and a stop are told, and heard, as one change each way. -/
theorem connection_history_startedTwice :
    ∃ after, heardAtOnce.Tells startedTwice (lettered 'a') .initial after [true, false] ∧
      after.started = 2 ∧
      ((Client.connectionStatus bus (lettered 'a')).run
        (heardAtOnce.after startedTwice)).result = .ok false ∧
      Effect.outputs (Invocation.effects
        (((moments heardAtOnce startedTwice).flatMap Moment.invocations).filter
          fun i => decide (i.token = ⟨1⟩))) = [true, false] ∧
      Effect.outputs ((moments heardAtOnce startedTwice).flatMap fun i => i.outcome.effects) =
        [true, false] := by
  have hreached : heardAtOnce.Reachable := Reachable.initial.after _
  have hdevice : heardAtOnce.daemon.devices.get? (lettered 'a') = some .initial := rfl
  have hspares : ∀ o ∈ startedTwice, o.SparesConnection (lettered 'a') := by
    simp only [startedTwice, List.forall_mem_cons, List.not_mem_nil, false_implies, implies_true,
      Operation.SparesConnection, and_true, true_and]
    exact fun hsame => absurd (Except.ok.inj hsame) (by decide)
  obtain ⟨after, history, htells, hstatus, heffects, _, _, hheard⟩ :=
    connection_history hreached hdevice hspares
  -- Two calls change the connection, and of two values only these alternate.
  have hlength : history.length = 2 := htells.changes.trans (by decide +kernel)
  obtain ⟨x, y, rfl⟩ := List.length_eq_two.mp hlength
  obtain ⟨hfirst, hrest⟩ := List.isChain_cons_cons.mp htells.alternates
  obtain ⟨hsecond, _⟩ := List.isChain_cons_cons.mp hrest
  obtain rfl : x = true := eq_true_of_ne_false (Ne.symm hfirst)
  obtain rfl : y = false := by simpa using Ne.symm hsecond
  have hstarted : after.started.toNat = 2 := htells.started.trans (by decide +kernel)
  refine ⟨after, htells, UInt32.toNat_inj.mp hstarted, ?_, ?_, ?_⟩
  · rw [hstatus, ← htells.last]
    rfl
  · have hlistens : .toConnection ⟨1⟩ (lettered 'a') [] (.output id) ∈ heardAtOnce.subscriptions :=
      List.mem_singleton_self _
    rw [(hheard _ _ _ hlistens (by simp [startedTwice]) rfl).1]
    rfl
  · rw [heffects]
    rfl

/-- A device is started, and then replaced by a fresh one before the signal is handed on. -/
def replacedUnheard : LocalBus Bool :=
  heardAtOnce.after [.call (Method.start.callAt (lettered 'a') []), .addDevice "a"]

/-- In a run that only hands on what waits, a handler that was there before hears of a connection,
though the history of the run is empty and the device is not connected. -/
theorem connection_heard_stale :
    replacedUnheard.Reachable ∧
      replacedUnheard.daemon.devices.get? (lettered 'a') = some .initial ∧
      (∀ o ∈ [(.drain : Operation Bool)], o.SparesConnection (lettered 'a')) ∧
      .toConnection ⟨1⟩ (lettered 'a') [] (.output id) ∈ replacedUnheard.subscriptions ∧
      (replacedUnheard.after [.drain]).queue = [] ∧
      (moments replacedUnheard [.drain]).flatMap Moment.queued = [] ∧
      ((moments replacedUnheard [.drain]).flatMap Moment.invocations).map Invocation.token = [⟨1⟩] ∧
      Effect.outputs (Invocation.effects
        ((moments replacedUnheard [.drain]).flatMap Moment.invocations)) = [true] ∧
      ((Client.connectionStatus bus (lettered 'a')).run
        (replacedUnheard.after [.drain])).result = .ok false := by
  have hreached : heardAtOnce.Reachable := Reachable.initial.after _
  refine ⟨hreached.after _, rfl, ?_, List.mem_singleton_self _, rfl, rfl, rfl, rfl, rfl⟩
  exact fun o ho => (List.mem_singleton.mp ho) ▸ trivial

end LocalBus

end Positioning
