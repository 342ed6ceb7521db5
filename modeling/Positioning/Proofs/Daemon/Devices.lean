import Positioning.Proofs.Daemon.Objects
import Positioning.Proofs.Sessions

/-!
# What devices answer

Since objects and devices agree, the object of a device never misses its device. Once a path is
given for a device, every method of devices is answered there for ever, but for two causes: the
method crashed before, on a full counter of whatever device, and is busy from then on; or its own
counter is full, and it crashes now.

A session that watches a device fails where its client cannot be made. Beyond that it ends like the
start of the device.

## Main definitions

- `Daemon.offers` says that an object offers an interface.
- `Moment.gives` tells which path an operation gives for a device.

## Main statements

- `Daemon.Agrees.serve_device`: how a device answers.
- `Session.watchEnding_cases`: how a session ends.
- `LocalBus.objects_agree`: all this together, for every run.
-/

namespace Positioning

open Wire

variable {ω : Type}

namespace Daemon

/-! ## Interfaces -/

/-- There is an object at a path that offers an interface. -/
def offers (d : Daemon) (path : ObjectPath) (i : Interface) : Prop :=
  ∃ object, d.objects.get? path = some object ∧ i ∈ object.interfaces

variable {d : Daemon} {added : ObjectPath → Prop}

/-- The interfaces of devices are offered at the paths of the devices. -/
theorem Agrees.offers_iff_of_isOfDevice (h : d.Agrees added) {i : Interface}
    (hi : i.isOfDevice = true) (path : ObjectPath) :
    d.offers path i ↔ path ∈ d.devices.keys := by
  have hdevice : d.offers path i ↔ d.objects.get? path = some .device := by
    simp only [offers, Interface.mem_interfaces_iff_of_isOfDevice hi, exists_eq_right]
  rw [hdevice, h.device path, ← h.opens path, Table.mem_keys_iff, HasDevice]

theorem Agrees.offers_server_iff (h : d.Agrees added) (path : ObjectPath) :
    d.offers path .server ↔ path = .control := by
  rw [← h.control path]
  constructor
  · rintro ⟨object, hobject, hoffered⟩
    cases object <;> simp [Object.interfaces] at hoffered
    exact hobject
  · exact fun hobject => ⟨_, hobject, by decide⟩

/-- The interface of discovery is offered at its path, until a device takes the path. -/
theorem Agrees.offers_discovery_iff (h : d.Agrees added) (path : ObjectPath) :
    d.offers path .discovery ↔ path = .discovery ∧ ¬ added .discovery := by
  rw [← h.discovery path]
  constructor
  · rintro ⟨object, hobject, hoffered⟩
    cases object <;> simp [Object.interfaces] at hoffered
    exact hobject
  · exact fun hobject => ⟨_, hobject, by decide⟩

/-! ## Answers -/

/-- No client is missed but by releasing one that is not listed. A device object, above all, never
misses its device. -/
theorem Agrees.names_shutdown_of_noSuchClient (h : d.Agrees added) {c : MethodCall}
    {client : String} (hending : (d.serve c).ending = .error (.fault (.noSuchClient client))) :
    c.carried.names .shutdown = true ∧ client ∉ d.clients := by
  rcases d.serve_cases c with
    ⟨ending, hserve, hidle⟩ | ⟨object, m, r, hobject, hm, hoffered, _, hdoes, hserve⟩
  · rw [hserve] at hending
    exact absurd hending (hidle.noClient client)
  · rw [hserve] at hending
    cases hdoes with
    | unlisted _ hclient =>
      simp only [Response.served, Ending.error.injEq, ClientError.fault.injEq,
        Fault.noSuchClient.injEq] at hending
      exact ⟨hm, hending ▸ hclient⟩
    | uncreated f hf _ =>
      simp only [Response.served, Ending.error.injEq, ClientError.fault.injEq] at hending
      exact absurd hending (hf client)
    | vanished hdevice hnone =>
      obtain rfl := (Interface.mem_interfaces_iff_of_isOfDevice hdevice object).mp hoffered
      exact absurd ((h.opens _).mpr ((h.device _).mp hobject)) hnone
    | _ => simp [Response.served] at hending

/-- A device answers a method that is not busy, unless the counter of the method is full. -/
theorem Agrees.serve_device (h : d.Agrees added) {c : MethodCall} {m : Method}
    (hnames : c.carried.names m = true)
    (hm : m.interface.isOfDevice = true) (hpath : added c.carried.path) :
    (m ∈ d.busy ∧ d.serve c = ⟨.error (.fault (.methodBusy m.name)), [], d⟩) ∨
      m ∉ d.busy ∧ ∃ state, d.devices.get? c.carried.path = some state ∧
        ((state.isFullFor m = true ∧ (d.serve c).ending = .crash .counterFull) ∨
          (state.isFullFor m = false ∧ ∃ reply, (d.serve c).ending = .ok reply)) := by
  rw [h.serve_at_device hnames hm hpath]
  by_cases hbusy : m ∈ d.busy
  · rw [if_pos hbusy]
    exact .inl ⟨hbusy, rfl⟩
  · rw [if_neg hbusy]
    refine .inr ⟨hbusy, ?_⟩
    obtain ⟨state, hstate⟩ := Option.isSome_iff_exists.mp ((h.opens _).mpr hpath)
    refine ⟨state, hstate, ?_⟩
    -- Of what the method may come to, only what a device of its own allows is left.
    have hdoes := d.does_run c.carried.path .device c.carried.arguments m
    generalize d.run c.carried.path .device c.carried.arguments m = r at hdoes
    cases hdoes with
    | told hquery values =>
      have hroom : state.isFullFor m = false := by cases m <;> first | rfl | cases hquery
      exact .inr ⟨hroom, _, rfl⟩
    | switched _ hdevice hroom _ =>
      obtain rfl := Option.some.inj (hstate.symm.trans hdevice)
      exact .inr ⟨hroom, _, rfl⟩
    | crashed _ hdevice hfull =>
      obtain rfl := Option.some.inj (hstate.symm.trans hdevice)
      exact .inl ⟨hfull, rfl⟩
    | vanished _ hnone => exact absurd ((h.opens _).mpr hpath) hnone
    | scanned hscan _ => rcases hscan with rfl | rfl <;> cases hm
    | _ => cases hm

/-- The path that making a client gives is that of a device that was added. -/
theorem Agrees.of_answered_create (h : d.Agrees added) {c : MethodCall} {path : ObjectPath}
    (hnames : c.carried.names .create = true)
    (hending : (d.serve c).ending = .ok [.objectPath path]) : added path := by
  rcases d.serve_cases c with ⟨ending, hserve, hidle⟩ | ⟨_, m, r, _, hm, _, _, hdoes, hserve⟩
  · rw [hserve] at hending
    exact absurd hending (hidle.noAnswer .create hnames _)
  · obtain rfl := MethodCall.names_unique hnames hm
    rw [hserve] at hending
    cases hdoes with
    | created _ _ hdevice =>
      obtain rfl : _ = path := by simpa [Response.served] using hending
      exact (h.opens _).mp hdevice
    | told hquery _ => cases hquery
    | scanned hscan _ => rcases hscan with hscan | hscan <;> cases hscan
    | switched hswitch _ _ _ => cases hswitch
    | _ => simp [Response.served] at hending

end Daemon

/-! ## Runs -/

namespace Moment

/-- The operation gives the path of a device, by adding it or by making a client. -/
def gives (i : Moment ω) (path : ObjectPath) : Prop :=
  i.outcome.result = .ok (.path path) ∨
    ∃ c, i.operation = .call c ∧ c.carried.names .create = true ∧
      i.outcome.result = .ok (.values [.objectPath path])

/-- Only adding a device gives a path as such. -/
theorem exists_addDevice_of_path {i : Moment ω} {path : ObjectPath}
    (h : i.outcome.result = .ok (.path path)) :
    ∃ device, i.operation = .addDevice device ∧ ObjectPath.ofDevice device = .ok path := by
  obtain ⟨b, o⟩ := i
  cases o with
  | addDevice device =>
    refine ⟨device, rfl, ?_⟩
    simp only [outcome, Operation.perform, Operation.ofChange, LocalBus.addDevice,
      Daemon.addDevice] at h
    cases hdevice : ObjectPath.ofDevice device with
    | ok path' => simpa [hdevice, Except.map] using h
    | error e => simp [hdevice, Except.map] at h
  | call c =>
    rw [result_call] at h
    split at h <;> simp at h
  | process => simp [outcome, Operation.perform, Operation.ofAction, LocalBus.run_process] at h
  | drain => simp [outcome, Operation.perform, Operation.ofAction, LocalBus.run_drain] at h
  | updateDevice device f =>
    simp only [outcome, Operation.perform, Operation.ofChange, LocalBus.updateDevice] at h
    cases hupdate : b.daemon.updateDevice device f <;> simp [hupdate, Except.map] at h
  | emitFor device kind payload =>
    simp only [outcome, Operation.perform, Operation.ofChange, LocalBus.emitFor] at h
    cases hdevice : ObjectPath.ofDevice device <;> simp [hdevice, Except.map] at h
  | _ => cases h

theorem result_call_eq_values_iff {b : LocalBus ω} {c : MethodCall} {values : List Value} :
    (Moment.outcome ⟨b, .call c⟩).result = .ok (.values values) ↔
      (b.daemon.serve c).ending = .ok values := by
  rw [result_call]
  cases (b.daemon.serve c).ending <;> simp

end Moment

namespace LocalBus

/-- A path that is given is that of a device that was added. -/
theorem adds_of_gives {ops : List (Operation ω)} {i : Moment ω} (hi : i ∈ moments .initial ops)
    {path : ObjectPath} (hgives : i.gives path) : Operation.adds ops path := by
  obtain ⟨before, later, hops, hbus⟩ := exists_of_mem_moments hi
  rw [hops, ← List.singleton_append, ← List.append_assoc, Operation.adds_append,
    Operation.adds_append]
  rcases hgives with hpath | ⟨c, hc, hnames, hvalues⟩
  · obtain ⟨device, hoperation, hdevice⟩ := Moment.exists_addDevice_of_path hpath
    exact .inl (.inr ⟨device, List.mem_singleton.mpr hoperation.symm, hdevice⟩)
  · obtain ⟨b, o⟩ := i
    obtain rfl : o = .call c := hc
    obtain rfl : b = LocalBus.initial.after before := hbus
    exact .inl (.inl ((agrees_after before).of_answered_create hnames
      (Moment.result_call_eq_values_iff.mp hvalues)))

end LocalBus

/-! ## Sessions -/

namespace Session

/-- A session that is refused its client ends there. -/
theorem watchEnding_of_refused {d d' : Daemon} {device : String} {f : Fault}
    (h : d.serve (LocalBus.createCall device) = ⟨.error (.fault f), [], d'⟩) :
    watchEnding d device = .error (.fault f) := by
  unfold watchEnding
  rw [h]
  rfl

/-- A session that is given a client ends as the start of the device does. -/
theorem watchEnding_of_created {d d' : Daemon} {device : String} {path : ObjectPath}
    (h : d.serve (LocalBus.createCall device) = ⟨.ok [.objectPath path], [], d'⟩) :
    watchEnding d device =
      started path (LocalBus.reading Reply.unit (d'.serve (LocalBus.startCall path)).ending) := by
  unfold watchEnding
  rw [h]
  rfl

/-- A session that watches a device fails where no client can be made. Where one is made, it fails
if starting is busy, crashes if starting has been counted as often as can be counted, and gives the
path of the device else. -/
theorem watchEnding_cases {d : Daemon} {added : ObjectPath → Prop} (h : d.Agrees added)
    (hbusy : .create ∉ d.busy) (device : String) :
    let create := LocalBus.reading (Reply.one ObjectPath)
      (d.serve (LocalBus.createCall device)).ending
    (∃ e, create = .error e ∧ watchEnding d device = .error e) ∨
    ∃ path, create = .ok path ∧
      ((.start ∈ d.busy ∧ ∃ e, watchEnding d device = .error e) ∨
        .start ∉ d.busy ∧ ∃ state, d.devices.get? path = some state ∧
          ((state.isFullFor .start = true ∧ watchEnding d device = .crash .counterFull) ∨
            (state.isFullFor .start = false ∧ watchEnding d device = .ok path))) := by
  intro create
  have hserve := h.serve_create hbusy (c := LocalBus.createCall device)
    ObjectPath.carried_control (Method.names_callAt .create _ _) rfl
  rcases hserve with ⟨path, hpath, hadded, hserve⟩ | ⟨_, f, hserve⟩
  · have hcreate : create = .ok path := by
      simp only [create, hserve]
      rfl
    refine .inr ⟨path, hcreate, ?_⟩
    -- The new client changes nothing that starting the device depends on.
    have hlisted : ({ d with clients := d.clients ++ [Wire.carried device] } : Daemon).Agrees
        added := h.of_frame rfl fun _ => Iff.rfl
    have harrives : (LocalBus.startCall path).carried.path = path :=
      ObjectPath.carried_of_ofDevice hpath
    have hstart := hlisted.serve_device (c := LocalBus.startCall path) (m := .start)
      (Method.names_callAt .start _ _) rfl
      (by rw [harrives]; exact hadded)
    rw [harrives] at hstart
    rw [watchEnding_of_created hserve]
    rcases hstart with ⟨hstartBusy, hserved⟩ | ⟨hfree, state, hstate, hfull | hroom⟩
    · rw [hserved]
      exact .inl ⟨hstartBusy, _, rfl⟩
    · rw [hfull.2]
      exact .inr ⟨hfree, state, hstate, .inl ⟨hfull.1, rfl⟩⟩
    · obtain ⟨hroom, reply, hreply⟩ := hroom
      rw [hreply]
      exact .inr ⟨hfree, state, hstate, .inr ⟨hroom, rfl⟩⟩
  · refine .inl ⟨.fault f, ?_, watchEnding_of_refused hserve⟩
    simp only [create, hserve]
    rfl

/-- The sessions that watch a device all end in the same way. -/
theorem result_eq_watchEnding (out : String → ω) (device : String) (b : LocalBus ω) :
    ∀ session ∈ [watchPosition LocalBus.bus out device, watchTrack LocalBus.bus out device,
        watchSatellites LocalBus.bus out device],
      (session.run b).result = watchEnding b.daemon device := by
  rw [watchPosition_eq, watchTrack_eq, watchSatellites_eq]
  simp only [List.forall_mem_cons, List.not_mem_nil, false_implies, implies_true, and_true]
  exact ⟨(run_watch ..).1, (run_watch ..).1, (run_watch ..).1⟩

end Session

namespace LocalBus

/-- **Objects and devices agree.** After every run the interfaces of devices are offered exactly at
the paths of the devices. The interface of the server is offered at the path of the control object,
where no device can be; that of discovery is offered at its path, until a device takes the path. No
device object ever misses its device. The methods that are busy are those that crashed on a full
counter. At a path that was given for a device, every method of devices that is not busy is answered
while there is room to count it. A session that watches a device fails exactly where no client can
be made, or starting is busy; it crashes exactly where starting it could be counted no more. -/
theorem objects_agree (ops : List (Operation ω)) (out : String → ω) (device : String) :
    let b := LocalBus.initial.after ops
    let d := b.daemon
    let create := ((Client.create bus device).run b).result
    (∀ path i, i.isOfDevice = true → (d.offers path i ↔ path ∈ d.devices.keys)) ∧
    (∀ path, d.offers path .server ↔ path = .control) ∧
    (∀ name, ObjectPath.ofDevice name ≠ .ok .control) ∧
    (∀ path, d.offers path .discovery ↔ path = .discovery ∧ ¬ Operation.adds ops .discovery) ∧
    (∀ c client, (d.serve c).ending = .error (.fault (.noSuchClient client)) →
      c.carried.names .shutdown = true ∧ client ∉ d.clients) ∧
    (∀ m, m ∈ d.busy ↔ m.isSwitch = true ∧ ∃ i ∈ moments .initial ops, i.crashes m) ∧
    (∀ i ∈ moments .initial ops, ∀ path, i.gives path →
      ∀ c m, c.carried.path = path → c.carried.names m = true →
        m.interface.isOfDevice = true → m ∉ d.busy →
        ∃ state, d.devices.get? path = some state ∧
          (state.isFullFor m = false → ∃ reply, (d.serve c).ending = .ok reply)) ∧
    ∀ session ∈ [Session.watchPosition bus out device, Session.watchTrack bus out device,
        Session.watchSatellites bus out device],
      ((∃ e, (session.run b).result = .error e) ↔
        (∃ e, create = .error e) ∨ (∃ path, create = .ok path) ∧ .start ∈ d.busy) ∧
      ((∃ k, (session.run b).result = .crash k) ↔
        ∃ path state, create = .ok path ∧ .start ∉ d.busy ∧
          d.devices.get? path = some state ∧ state.isFullFor .start = true) := by
  intro b d create
  have hagrees : d.Agrees (Operation.adds ops) := agrees_after ops
  refine ⟨fun path i hi => hagrees.offers_iff_of_isOfDevice hi path, hagrees.offers_server_iff,
    fun name hname => ObjectPath.ofDevice_ne_control hname rfl, hagrees.offers_discovery_iff,
    fun c client => hagrees.names_shutdown_of_noSuchClient, mem_busy_iff ops, ?_, ?_⟩
  · rintro i hi path hgives c m rfl hnames hm hfree
    have hserve := hagrees.serve_device hnames hm (adds_of_gives hi hgives)
    obtain ⟨hbusy, _⟩ | ⟨_, state, hstate, hfull | hroom⟩ := hserve
    · exact absurd hbusy hfree
    · exact ⟨state, hstate, fun hroom => by simp [hfull.1] at hroom⟩
    · exact ⟨state, hstate, fun _ => hroom.2⟩
  · intro session hsession
    have hcreateFree : Method.create ∉ d.busy := by
      intro hmem
      have hswitch := ((mem_busy_iff ops .create).mp hmem).1
      cases hswitch
    have hcases := Session.watchEnding_cases hagrees hcreateFree device
    rw [Session.result_eq_watchEnding out device b session hsession]
    have hcreate : create = reading (Reply.one ObjectPath) (d.serve (createCall device)).ending :=
      (run_create device b).1
    rw [← hcreate] at hcases
    obtain ⟨e, hfailed, hending⟩ | ⟨path, hmade, hbusy | ⟨hfree, state, hstate, hfull | hroom⟩⟩ :=
      hcases
    · rw [hending]
      simp [hfailed]
    · obtain ⟨hbusy, e, hending⟩ := hbusy
      rw [hending]
      simp [hmade, hbusy]
    · rw [hfull.2]
      simp [hmade, hfree, hstate, hfull.1]
    · rw [hroom.2]
      simp [hmade, hfree, hstate, hroom.1]

/-- A device that was just added can be started. -/
theorem objects_agree_addDevice :
    let b : LocalBus String := LocalBus.initial.after [.addDevice "a"]
    Moment.gives (⟨.initial, .addDevice "a"⟩ : Moment String) (lettered 'a') ∧
      .start ∉ b.daemon.busy ∧ ∃ reply, (b.daemon.serve (startCall (lettered 'a'))).ending =
        .ok reply := by
  intro b
  have hgives : Moment.gives (⟨.initial, .addDevice "a"⟩ : Moment String) (lettered 'a') := .inl rfl
  have hpath : ObjectPath.ofDevice "a" = .ok (lettered 'a') := rfl
  have hfree : Method.start ∉ b.daemon.busy := List.not_mem_nil
  obtain ⟨state, hstate, hanswered⟩ := (objects_agree [.addDevice "a"] id "a").2.2.2.2.2.2.1
    ⟨.initial, .addDevice "a"⟩ (List.mem_cons_self ..) (lettered 'a') hgives
    (startCall (lettered 'a')) .start (ObjectPath.carried_of_ofDevice hpath)
    (Method.names_callAt .start _ _) rfl hfree
  have hinitial : state = .initial := (Option.some.inj hstate).symm
  exact ⟨hgives, hfree, hanswered (by rw [hinitial]; decide)⟩

/-- Two devices, one of which has been started as often as can be counted, and once more. -/
def startCrashed : List (Operation String) :=
  [.addDevice "a", .addDevice "b", .updateDevice "a" fun s => { s with started := 4294967295 },
    .call (startCall (lettered 'a'))]

/-- Once starting has crashed on one device, it is refused on another that was never started, and
whoever watches that one fails, though a client is made. -/
theorem start_refused_after_crash :
    let b := LocalBus.initial.after startCrashed
    (∃ i ∈ moments .initial startCrashed, i.gives (lettered 'b')) ∧
      b.daemon.devices.get? (lettered 'b') = some .initial ∧
      DeviceState.initial.isFullFor .start = false ∧
      (b.daemon.serve (startCall (lettered 'b'))).ending =
        .error (.fault (.methodBusy "Start")) ∧
      ((Client.create bus "b").run b).result = .ok (lettered 'b') ∧
      ((Session.watchPosition bus id "b").run b).result =
        .error (.fault (.methodBusy "Start")) :=
  ⟨⟨⟨LocalBus.initial.after [.addDevice "a"], .addDevice "b"⟩,
      List.mem_cons_of_mem _ (List.mem_cons_self ..), .inl rfl⟩, rfl, by decide, rfl, rfl, rfl⟩

end LocalBus

end Positioning
