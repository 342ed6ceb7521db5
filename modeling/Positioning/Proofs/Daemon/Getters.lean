import Positioning.Proofs.Bus.Listeners
import Positioning.Proofs.Daemon.Devices
import Positioning.Proofs.SignalFormat

/-!
# What devices tell

A device tells of its position, its course and the like in two ways: in the reply to a getter, and
in signals to those who listen. Both say what the daemon knows of the device, and asking changes
nothing but the journal of the bus.

## Main definitions

- `Datum` is one thing that a device tells. `Datum.get` asks for it, `Datum.listen` waits for it,
  `Datum.content` is what the daemon knows of it.
- `Datum.message` is the signal that tells a datum.

## Main statements

- `LocalBus.Reachable.run_get`: what a getter gives.
- `Datum.hear_message`: what a listener makes of the signal of a datum.
- `LocalBus.getters_agree`: getters and listeners get what the daemon knows.
-/

namespace Positioning

open Wire

variable {β ω : Type}

theorem Client.readFixStatus_toInt32 (status : FixStatus) :
    Client.readFixStatus status.toInt32 = .ok status := by
  rw [Client.readFixStatus, FixStatus.ofInt32?_toInt32]

/-- What a device tells of itself. -/
inductive Datum where
  | position
  | course
  | accuracy
  | satellites
  | time
  | fixStatus
  | connection

namespace Datum

/-- What is told. -/
def Content : Datum → Type
  | position => Position
  | course => Course
  | accuracy => Accuracy
  | satellites => List Satellite
  | time => Int32
  | fixStatus => FixStatus
  | connection => Bool

/-- The kind of the signals that tell it. -/
def kind : Datum → SignalKind
  | position => .positionChanged
  | course => .courseChanged
  | accuracy => .accuracyChanged
  | satellites => .satellitesChanged
  | time => .timeChanged
  | fixStatus => .fixStatusChanged
  | connection => .connectionStatusChanged

/-- The getter that tells it. -/
def method : Datum → Method
  | position => .getPosition
  | course => .getCourse
  | accuracy => .getAccuracy
  | satellites => .getSatellites
  | time => .getTime
  | fixStatus => .getFixStatus
  | connection => .getConnectionStatus

/-- What the daemon knows of it. -/
def content : (datum : Datum) → DeviceState → datum.Content
  | position, state => state.position
  | course, state => state.course
  | accuracy, state => state.accuracy
  | satellites, state => state.satellites
  | time, state => state.time
  | fixStatus, state => state.fixStatus
  | connection, state => state.connected

/-- What a reply or a signal carries that tells it. -/
def payload : (datum : Datum) → datum.Content → datum.kind.Payload
  | position, p => Position.toSignal p
  | course, c => Course.toSignal c
  | accuracy, a => Accuracy.toSignal a
  | satellites, view => view
  | time, timestamp => timestamp
  | fixStatus, status => FixStatus.toInt32 status
  | connection, connected => connected

/-- What a reply or a signal tells that carries a payload. -/
def interpret : (datum : Datum) → datum.kind.Payload → Except ClientError datum.Content
  | position, s => .ok (Position.ofSignal s)
  | course, s => .ok (Course.ofSignal s)
  | accuracy, s => .ok (Accuracy.ofSignal s)
  | satellites, view => .ok view
  | time, timestamp => .ok timestamp
  | fixStatus, n => Client.readFixStatus n
  | connection, connected => .ok connected

/-- Asks a device for it. -/
def get (bus : Bus β ω) (path : ObjectPath) :
    (datum : Datum) → Action β ClientError ω datum.Content
  | position => Client.position bus path
  | course => Client.course bus path
  | accuracy => Client.accuracy bus path
  | satellites => Client.satellites bus path
  | time => Client.time bus path
  | fixStatus => Client.fixStatus bus path
  | connection => Client.connectionStatus bus path

/-- Puts something out whenever a device tells it. -/
def listen (bus : Bus β ω) (path : ObjectPath) :
    (datum : Datum) → (datum.Content → ω) → Action β ClientError ω Token
  | position, f => Client.onPosition bus path f
  | course, f => Client.onCourse bus path f
  | accuracy, f => Client.onAccuracy bus path f
  | satellites, f => Client.onSatellites bus path f
  | time, f => Client.onTime bus path f
  | fixStatus, f => Client.onFixStatus bus path f
  | connection, f => Client.onConnection bus path f

/-- The signal by which a device in a state tells it. -/
def message (datum : Datum) (path : ObjectPath) (state : DeviceState) : Message :=
  datum.kind.message path (datum.payload (datum.content state))

/-- What is done with a payload: a content is put out, and what cannot be understood is logged. -/
def respond (datum : Datum) (f : datum.Content → ω) (payload : datum.kind.Payload) :
    List (Effect ω) :=
  match datum.interpret payload with
  | .ok content => [.output (f content)]
  | .error e => [.record ⟨.warn, .device, e.message⟩]

/-- Who listens for it, at the path of a device. -/
def listener (datum : Datum) (path : ObjectPath) (f : datum.Content → ω) : Listener ω :=
  ⟨⟨some path, datum.kind⟩, datum.respond f⟩

theorem listen_eq (bus : Bus β ω) (path : ObjectPath) (datum : Datum) (f : datum.Content → ω) :
    datum.listen bus path f =
      bus.subscribe (some path) datum.kind (.forEach (datum.respond f)) := by
  cases datum with
  | fixStatus =>
    have heffects : Client.fixStatusEffects f = fixStatus.respond f := by
      funext (n : Int32)
      cases hread : Client.readFixStatus n with
      | ok status =>
        have hinterpret : fixStatus.interpret n = .ok status := hread
        simp only [Client.fixStatusEffects, respond, hread, hinterpret]
      | error e =>
        have hinterpret : fixStatus.interpret n = .error e := hread
        simp only [Client.fixStatusEffects, respond, hread, hinterpret]
    exact congrArg (fun effects => Client.onSignal bus path .fixStatusChanged effects) heffects
  | _ => rfl

theorem interface_kind (datum : Datum) : datum.kind.interface = datum.method.interface := by
  cases datum <;> rfl

theorem isOfDevice_method (datum : Datum) : datum.method.interface.isOfDevice = true := by
  cases datum <;> rfl

theorem isSwitch_method (datum : Datum) : datum.method.isSwitch = false := by
  cases datum <;> rfl

/-- A content is understood as it was told. -/
theorem interpret_payload (datum : Datum) (content : datum.Content) :
    datum.interpret (datum.payload content) = .ok content := by
  cases datum with
  | position => exact congrArg Except.ok (Position.ofSignal_toSignal content)
  | course => exact congrArg Except.ok (Course.ofSignal_toSignal content)
  | accuracy => exact congrArg Except.ok (Accuracy.ofSignal_toSignal content)
  | fixStatus => exact Client.readFixStatus_toInt32 content
  | _ => rfl

/-- What is told of a device holds no texts, so nothing of it is lost. -/
theorem decode_payload (datum : Datum) (content : datum.Content) :
    datum.kind.decode (datum.kind.encode (datum.payload content)) =
      .ok (datum.payload content) := by
  rw [SignalKind.decode_encode, SignalKind.carried_of_texts]
  cases datum <;> exact List.forall_mem_nil _

/-- A getter understands what it is given. -/
theorem run_get {bus : Bus β ω} {path : ObjectPath} {datum : Datum} {s s' : β}
    {payload : datum.kind.Payload} {effects : List (Effect ω)}
    (h : (Client.get bus path datum.kind datum.method.name).run s = ⟨.ok payload, effects, s'⟩) :
    (datum.get bus path).run s = ⟨.ofExcept (datum.interpret payload), effects, s'⟩ := by
  have hbind : ∀ f : datum.kind.Payload → Action β ClientError ω datum.Content,
      (∀ a t, (f a).run t = ⟨.ofExcept (datum.interpret a), [], t⟩) →
      (Client.get bus path datum.kind datum.method.name >>= f).run s =
        ⟨.ofExcept (datum.interpret payload), effects, s'⟩ := by
    intro f hf
    rw [Action.run_bind_of_ok f (congrArg Outcome.result h), h, hf, List.append_nil]
  cases datum with
  | position => exact hbind _ fun _ _ => rfl
  | course => exact hbind _ fun _ _ => rfl
  | accuracy => exact hbind _ fun _ _ => rfl
  | fixStatus => exact hbind _ fun _ _ => rfl
  | _ => exact h

/-- Whoever listens for a datum is told by its signal what the daemon knows. -/
theorem hear_message {path : ObjectPath} (hpath : path.carried = path) (datum : Datum)
    (f : datum.Content → ω) (state : DeviceState) :
    (datum.listener path f).hear (datum.message path state) =
      [.output (f (datum.content state))] := by
  have hread : (datum.listener path f).rule.read? (datum.message path state) =
      some (datum.payload (datum.content state)) := by
    refine MatchRule.read?_eq_some_iff.mpr ⟨?_, rfl, rfl, datum.decode_payload _⟩
    intro p hp
    rw [← Option.some.inj hp]
    exact hpath.symm
  rw [Listener.hear, hread]
  show datum.respond f (datum.payload (datum.content state)) ++ [] = _
  rw [respond, interpret_payload, List.append_nil]

end Datum

namespace LocalBus

variable {b : LocalBus ω} {path : ObjectPath} {state : DeviceState}

/-! ## Asking -/

/-- A call of a method that is answered and changes nothing leaves its mark in the journal alone. -/
theorem run_request_of_told {α : Type} {read : List Value → Except Mismatch α} {c : MethodCall}
    {m : Method} {values : List Value} {a : α} (hnames : c.carried.names m = true)
    (hserve : b.daemon.serve c = ⟨.ok values, [], b.daemon⟩) (hread : read values = .ok a) :
    (bus.request read c).run b = ⟨.ok a, [], b.note (.call c)⟩ := by
  rw [run_request, next_call, hserve, MethodCall.badName?_of_names hnames]
  simp only [reading, hread, List.append_nil]
  rfl

/-- The daemon answers a getter with what it knows of the device. -/
theorem Reachable.serve_get (hb : b.Reachable) (hdevice : b.daemon.devices.get? path = some state)
    (datum : Datum) :
    b.daemon.serve (datum.method.callAt path []) =
      ⟨.ok (datum.kind.encode (datum.payload (datum.content state))), [], b.daemon⟩ := by
  have hthere : b.daemon.HasDevice path := by simp [Daemon.HasDevice, hdevice]
  have harrives : (datum.method.callAt path []).carried.path = path := hb.carried_path hthere
  have hfree : datum.method ∉ b.daemon.busy := by
    intro hbusy
    have hswitch := hb.isSwitch_of_mem_busy hbusy
    rw [datum.isSwitch_method] at hswitch
    cases hswitch
  rw [hb.agrees.serve_at_device (Method.names_callAt _ _ _) datum.isOfDevice_method
    (by rw [harrives]; exact hthere), if_neg hfree, harrives]
  cases datum <;> simp only [Datum.method, Daemon.run, Daemon.getter, Daemon.deviceAt, hdevice] <;>
    rfl

/-- A getter gives what the daemon knows of the device, and nothing changes. -/
theorem Reachable.run_get (hb : b.Reachable) (hdevice : b.daemon.devices.get? path = some state)
    (datum : Datum) :
    (datum.get bus path).run b =
      ⟨.ok (datum.content state), [], b.note (.call (datum.method.callAt path []))⟩ := by
  have hasked := run_request_of_told (Method.names_callAt datum.method path [])
    (hb.serve_get hdevice datum) (datum.decode_payload (datum.content state))
  have hget : Client.get (ω := ω) bus path datum.kind datum.method.name =
      bus.request datum.kind.decode (datum.method.callAt path []) := by
    rw [Client.get, Client.query, datum.interface_kind]
    rfl
  rw [← hget] at hasked
  rw [Datum.run_get hasked, datum.interpret_payload]
  rfl

/-- The devices that the daemon knows are listed as the wire carries their names. -/
theorem Reachable.run_listDevices (hb : b.Reachable)
    (hoffers : b.daemon.offers .discovery .discovery) :
    (Client.listDevices bus).run b =
      ⟨.ok (b.daemon.known.map Wire.carried), [],
        b.note (.call (Method.listDevices.callAt .discovery []))⟩ := by
  obtain ⟨object, hobject, hoffered⟩ := hoffers
  have harrives : ObjectPath.discovery.carried = .discovery :=
    ObjectPath.carried_of_isPath (by decide)
  have hnames := Method.names_callAt .listDevices .discovery []
  have hfree : Method.listDevices ∉ b.daemon.busy := by
    intro hbusy
    have hswitch := hb.isSwitch_of_mem_busy hbusy
    cases hswitch
  have hserve : b.daemon.serve (Method.listDevices.callAt .discovery []) =
      ⟨.ok [Argument.toValue b.daemon.known], [], b.daemon⟩ := by
    have hthere : b.daemon.objects.get? (Method.listDevices.callAt .discovery []).carried.path =
        some object := by
      show b.daemon.objects.get? ObjectPath.discovery.carried = some object
      rw [harrives, hobject]
    rw [Daemon.serve_of_badName?_eq_none (MethodCall.badName?_of_names hnames),
      Daemon.answer_of_names hthere hnames hoffered, if_neg hfree]
    rfl
  refine run_request_of_told hnames hserve ?_
  show Except.ok (readItems (b.daemon.known.map Value.ofText)) = _
  rw [readItems_map fun _ : String => rfl]

/-! ## Listening -/

/-- Someone who has begun to listen stands alone under the token of the subscription. -/
theorem filter_listening {b₀ start : LocalBus ω} (h₀ : b₀.Reachable) {datum : Datum}
    {f : datum.Content → ω} {token : Token}
    (hlisten : (datum.listen bus path f).run b₀ = ⟨.ok token, [], start⟩) :
    start.subscriptions.filter (fun s => decide (s.token = token)) =
        [(datum.listener path f).subscription token []] ∧
      token.id < start.nextToken := by
  rw [Datum.listen_eq] at hlisten
  obtain rfl : ⟨b₀.nextToken⟩ = token := Ending.ok.inj (congrArg Outcome.result hlisten)
  have hstart : (Operation.subscribe (some path) datum.kind (.forEach (datum.respond f))).next b₀ =
      start := congrArg Outcome.state hlisten
  -- All tokens that were given before are smaller.
  have hothers : b₀.subscriptions.filter (fun s => decide (s.token = ⟨b₀.nextToken⟩)) = [] := by
    refine List.filter_eq_nil_iff.mpr fun s hs => ?_
    have hbelow := h₀.tokensOrdered.below s hs
    simp only [decide_eq_true_eq]
    intro heq
    rw [heq] at hbelow
    exact Nat.lt_irrefl _ hbelow
  rw [← hstart, next_subscribe]
  refine ⟨?_, Nat.lt_succ_self _⟩
  rw [List.filter_append, hothers, List.nil_append]
  exact List.filter_cons_of_pos (by exact decide_eq_true rfl)

/-- Listening does for every message that is handed on what the listener does for it. -/
theorem effects_listening {b₀ start : LocalBus ω} (h₀ : b₀.Reachable) {datum : Datum}
    {f : datum.Content → ω} {token : Token}
    (hlisten : (datum.listen bus path f).run b₀ = ⟨.ok token, [], start⟩)
    {ops : List (Operation ω)} (hends : Operation.unsubscribe token ∉ ops) :
    Invocation.effects
        (((moments start ops).flatMap Moment.invocations).filter fun i =>
          decide (i.token = token)) =
      Listener.effectsInTurn [datum.listener path f]
        ((moments start ops).flatMap Moment.processed) := by
  obtain ⟨hown, hgiven⟩ := filter_listening h₀ hlisten
  refine (effects_of_listeners (p := fun t => decide (t = token)) ?_ ?_ ?_).1
  · intro t ht
    rw [of_decide_eq_true ht]
    exact hgiven
  · intro t ht
    rw [of_decide_eq_true ht]
    exact hends
  · rw [hown]
    exact .cons ⟨token, [], rfl⟩ .nil

/-- **What devices tell.** On a bus that any operations have led to, the getters of a device give
what the daemon knows of it, the discovery object lists the devices that the daemon knows, and
neither changes anything but the journal. Someone who listens at the device, and once all signals
are handed on has not been unsubscribed, is told by each signal of a datum what the getter gives:
exactly this between what the signals before it and those after it tell. All that is done in such a
run is what the handlers do that are told. -/
theorem getters_agree {b : LocalBus ω} (hb : b.Reachable) :
    (∀ path state, b.daemon.devices.get? path = some state → ∀ datum : Datum,
      (datum.get bus path).run b =
        ⟨.ok (datum.content state), [], b.note (.call (datum.method.callAt path []))⟩) ∧
    (b.daemon.offers .discovery .discovery →
      (∀ device ∈ b.daemon.known, '\x00' ∉ device.toList) →
      (Client.listDevices bus).run b =
        ⟨.ok b.daemon.known, [], b.note (.call (Method.listDevices.callAt .discovery []))⟩) ∧
    ∀ (datum : Datum) (path : ObjectPath) (state : DeviceState) (f : datum.Content → ω)
      (b₀ start : LocalBus ω) (token : Token) (before later : List (Operation ω)),
      b₀.Reachable → (datum.listen bus path f).run b₀ = ⟨.ok token, [], start⟩ →
      start.after before = b → b.daemon.devices.get? path = some state →
      Operation.unsubscribe token ∉ before ++ .emit (datum.message path state) :: later →
      (start.after (before ++ .emit (datum.message path state) :: later)).queue = [] →
      let run := moments start (before ++ .emit (datum.message path state) :: later)
      run.flatMap (fun i => i.outcome.effects) =
          Invocation.effects (run.flatMap Moment.invocations) ∧
      Invocation.effects
          ((run.flatMap Moment.invocations).filter fun i => decide (i.token = token)) =
        Listener.effectsInTurn [datum.listener path f]
            (start.queue ++ (moments start before).flatMap Moment.queued) ++
          [.output (f (datum.content state))] ++
          Listener.effectsInTurn [datum.listener path f]
            ((moments (b.emit (datum.message path state)) later).flatMap Moment.queued) := by
  refine ⟨fun path state hdevice datum => hb.run_get hdevice datum, ?_, ?_⟩
  · intro hoffers htexts
    rw [hb.run_listDevices hoffers]
    have hcarried : b.daemon.known.map Wire.carried = b.daemon.known :=
      (List.map_congr_left fun device hd => carried_of_not_mem (htexts device hd)).trans
        (List.map_id _)
    rw [hcarried]
  · intro datum path state f b₀ start token before later h₀ hlisten hafter hdevice hends hempty run
    have hpath : path.carried = path := hb.carried_path (by simp [Daemon.HasDevice, hdevice])
    have htold : (datum.listener path f).hear (datum.message path state) =
        [.output (f (datum.content state))] := datum.hear_message hpath f state
    have hqueued : (moments start (before ++ .emit (datum.message path state) :: later)).flatMap
        Moment.queued =
        (moments start before).flatMap Moment.queued ++ datum.message path state ::
          (moments (b.emit (datum.message path state)) later).flatMap Moment.queued := by
      rw [moments_append, List.flatMap_append, hafter]
      rfl
    refine ⟨effects_moments _ _, ?_⟩
    rw [effects_listening h₀ hlisten hends, processed_of_queue_eq_nil hempty, hqueued,
      ← List.append_assoc]
    simp only [Listener.effectsInTurn, List.flatMap_append, List.flatMap_cons, List.flatMap_nil,
      List.append_nil, htold, List.append_assoc]

/-- A device whose fix status is listened to. -/
def attended : LocalBus FixStatus :=
  LocalBus.initial.after
    [.addDevice "a", .setKnown ["gps"],
      .subscribe (some (lettered 'a')) .fixStatusChanged (.forEach (Client.fixStatusEffects id))]

/-- The device tells that it has no fix, and then finds one. -/
def finding : List (Operation FixStatus) :=
  [.emitFor "a" .fixStatusChanged (1 : Int32),
    .updateDevice "a" fun s => { s with fixStatus := .fix3D }]

/-- The fix that was found is what the getter gives and the last that is heard. -/
theorem getters_agree_finding :
    let run := moments attended (finding ++ [.emit (Datum.fixStatus.message (lettered 'a')
      { DeviceState.initial with fixStatus := .fix3D }), .drain])
    ((Datum.fixStatus.get bus (lettered 'a')).run (attended.after finding)).result = .ok .fix3D ∧
      ((Client.listDevices bus).run (attended.after finding)).result = .ok ["gps"] ∧
      Effect.outputs (Invocation.effects
        ((run.flatMap Moment.invocations).filter fun i => decide (i.token = ⟨1⟩))) =
          [.noFix, .fix3D] ∧
      Effect.outputs (run.flatMap fun i => i.outcome.effects) = [.noFix, .fix3D] := by
  intro run
  have hreached : (LocalBus.initial.after (ω := FixStatus)
      [.addDevice "a", .setKnown ["gps"]]).Reachable := Reachable.initial.after _
  have hb : (attended.after finding).Reachable := (Reachable.initial.after _).after _
  have hdevice : (attended.after finding).daemon.devices.get? (lettered 'a') =
      some { DeviceState.initial with fixStatus := .fix3D } := rfl
  have hoffers : (attended.after finding).daemon.offers .discovery .discovery :=
    ⟨_, rfl, by decide⟩
  have htexts : ∀ device ∈ (attended.after finding).daemon.known, '\x00' ∉ device.toList := by
    intro device hd
    obtain rfl : device = "gps" := List.mem_singleton.mp hd
    decide
  obtain ⟨hget, hlist, hheard⟩ := getters_agree hb
  obtain ⟨heffects, htold⟩ := hheard .fixStatus (lettered 'a') _ id _ attended ⟨1⟩ finding [.drain]
    hreached rfl rfl hdevice (by simp [finding]) rfl
  refine ⟨?_, ?_, ?_, ?_⟩
  · rw [hget _ _ hdevice .fixStatus]
    rfl
  · rw [hlist hoffers htexts]
    rfl
  · rw [htold]
    rfl
  · rw [heffects]
    rfl

end LocalBus

end Positioning
