import Mathlib.Data.List.Induction
import Positioning.Proofs.Daemon.Calls

/-!
# Objects and devices

The daemon keeps its objects and its devices apart, and they never disagree: the device objects are
at the paths of the devices that were added, whatever is called in between. A method that crashes on
a full counter, of whatever device, is busy from then on; all others never are.

## Main definitions

- `Operation.adds` says that operations add a device whose object is at a path.
- `Daemon.Agrees` is the agreement of objects and devices.
- `Operation.daemonAfter` is what an operation does to the daemon.
- `Moment.crashes` says that an operation is a call that crashes.

## Main statements

- `Daemon.serve_frame` and `Daemon.mem_busy_serve_iff`: what calls leave alone, and how methods
  become busy.
- `LocalBus.agrees_after`: objects and devices agree after every run.
- `LocalBus.mem_busy_iff`: the methods that are busy are those that crashed.
- `Daemon.Agrees.serve_create`: for which devices clients are made.
- `Daemon.Agrees.serve_at_device`: which methods the object of a device runs.
-/

namespace Positioning

open Wire

variable {ω : Type}

/-! ## Paths of devices -/

namespace ObjectPath

/-- The object of a device is below the control object. -/
theorem ofDevice_ne_control {device : String} {path : ObjectPath}
    (h : ofDevice device = .ok path) : path ≠ .control := by
  unfold ofDevice at h
  split at h
  · cases h
  · next hname =>
    rintro rfl
    have hlength := congrArg (fun p => p.text.toList.length) (Except.ok.inj h)
    simp [child] at hlength

theorem carried_control : control.carried = .control :=
  carried_of_isPath (by decide)

/-- The path of a device arrives as it is. -/
theorem carried_of_ofDevice {device : String} {path : ObjectPath}
    (h : ofDevice device = .ok path) : path.carried = path := by
  unfold ofDevice at h
  split at h
  · cases h
  · next hname =>
    rw [← Except.ok.inj h]
    refine carried_of_isPath ?_
    rw [child, String.toList_ofList]
    exact isPath_control_append hname

end ObjectPath

/-- Some operation adds a device whose object is at the path. -/
def Operation.adds (ops : List (Operation ω)) (path : ObjectPath) : Prop :=
  ∃ device, Operation.addDevice device ∈ ops ∧ ObjectPath.ofDevice device = .ok path

theorem Operation.adds_append (xs ys : List (Operation ω)) (path : ObjectPath) :
    adds (xs ++ ys) path ↔ adds xs path ∨ adds ys path := by
  simp only [adds, List.mem_append, or_and_right, exists_or]

namespace Daemon

/-! ## Agreement -/

/-- The objects of the daemon are the control object, the discovery object unless a device has taken
its place, and those of the devices that were added. -/
structure Agrees (d : Daemon) (added : ObjectPath → Prop) : Prop where
  control : ∀ path, d.objects.get? path = some .control ↔ path = .control
  discovery : ∀ path, d.objects.get? path = some .discovery ↔
    path = .discovery ∧ ¬ added .discovery
  device : ∀ path, d.objects.get? path = some .device ↔ added path
  opens : ∀ path, d.HasDevice path ↔ added path

theorem initial_agrees : initial.Agrees fun _ => False := by
  have hget : ∀ path, initial.objects.get? path =
      if ObjectPath.root = path then some .root
      else if ObjectPath.control = path then some .control
      else if ObjectPath.discovery = path then some .discovery else none :=
    fun _ => rfl
  have hrootControl : ObjectPath.root ≠ .control := by decide
  have hrootDiscovery : ObjectPath.root ≠ .discovery := by decide
  have hcontrolDiscovery : ObjectPath.control ≠ .discovery := by decide
  refine ⟨fun path => ?_, fun path => ?_, fun path => ?_, fun path => ?_⟩
  · rw [hget]
    grind
  · rw [hget]
    grind
  · rw [hget]
    grind
  · simp [HasDevice, initial, Table.get?, Table.empty, Table.find?]

/-- What leaves the objects and adds or removes no device keeps the agreement. -/
theorem Agrees.of_frame {d d' : Daemon} {added : ObjectPath → Prop} (h : d.Agrees added)
    (hobjects : d'.objects = d.objects)
    (hdevices : ∀ path, d'.HasDevice path ↔ d.HasDevice path) : d'.Agrees added := by
  obtain ⟨hcontrol, hdiscovery, hdevice, hopens⟩ := h
  rw [← hobjects] at hcontrol hdiscovery hdevice
  exact ⟨hcontrol, hdiscovery, hdevice, fun path => (hdevices path).trans (hopens path)⟩

/-- Adding a device puts its object and the device at one path. -/
theorem Agrees.addDeviceAt {d : Daemon} {added : ObjectPath → Prop} (h : d.Agrees added)
    {path : ObjectPath} (hpath : path ≠ .control) :
    (d.addDeviceAt path).Agrees fun p => added p ∨ path = p := by
  refine ⟨fun p => ?_, fun p => ?_, fun p => ?_, fun p => ?_⟩
  · rw [Daemon.addDeviceAt, Table.get?_put, ← h.control p]
    split
    · next heq =>
      have hnot := mt (h.control p).mp (heq ▸ hpath)
      simp [hnot]
    · rfl
  · rw [Daemon.addDeviceAt, Table.get?_put]
    split
    · next heq =>
      -- A device that takes the path of discovery takes its interface away.
      simp only [Option.some.injEq, reduceCtorEq, false_iff, not_and, not_not]
      exact fun hp => .inr (heq.trans hp)
    · next hne =>
      rw [h.discovery p]
      constructor
      · rintro ⟨rfl, hnot⟩
        exact ⟨rfl, fun hor => hor.elim hnot hne⟩
      · rintro ⟨rfl, hnot⟩
        exact ⟨rfl, fun hadded => hnot (.inl hadded)⟩
  · rw [Daemon.addDeviceAt, Table.get?_put]
    split
    · next heq => simp [heq]
    · next hne => simp [h.device p, hne]
  · rw [HasDevice, Daemon.addDeviceAt, Table.get?_put]
    split
    · next heq => simp [heq]
    · next hne =>
      have hopens := h.opens p
      rw [HasDevice] at hopens
      simp [hopens, hne]

/-! ## What calls leave alone -/

/-- Writing the state of a device that is there adds and removes none. -/
theorem isSome_get?_put {devices : Table ObjectPath DeviceState} {path : ObjectPath}
    {before : DeviceState} (hdevice : devices.get? path = some before) (after : DeviceState)
    (p : ObjectPath) :
    ((devices.put path after).get? p).isSome = true ↔ (devices.get? p).isSome = true := by
  rw [Table.get?_put]
  split
  · next heq => simp [← heq, hdevice]
  · rfl

end Daemon

/-- A method adds and removes neither objects nor devices. -/
theorem Method.Does.frame {d : Daemon} {path : ObjectPath} {arguments : List Value} {m : Method}
    {r : Response} (h : m.Does d path arguments r) :
    (r.after d).objects = d.objects ∧ ∀ p, (r.after d).HasDevice p ↔ d.HasDevice p := by
  cases h with
  | switched _ hdevice _ after => exact ⟨rfl, Daemon.isSome_get?_put hdevice after⟩
  | _ => exact ⟨rfl, fun _ => Iff.rfl⟩

/-- Only methods that start or stop devices become busy, where a counter is full. -/
theorem Method.Does.busy {d : Daemon} {path : ObjectPath} {arguments : List Value} {m : Method}
    {r : Response} (h : m.Does d path arguments r) (n : Method) :
    n ∈ (r.after d).busy ↔
      n ∈ d.busy ∨ (n = m ∧ (r.served d).ending = .crash .counterFull) := by
  cases h with
  | crashed => simp [Response.after, Response.served, Daemon.crashIn, or_comm]
  | _ => simp [Response.after, Response.served, Daemon.reply, Daemon.connect]

theorem Method.Does.isSwitch_of_crash {d : Daemon} {path : ObjectPath} {arguments : List Value}
    {m : Method} {r : Response} (h : m.Does d path arguments r)
    (hcrash : (r.served d).ending = .crash .counterFull) : m.isSwitch = true := by
  cases h with
  | crashed hm => exact hm
  | _ => simp [Response.served] at hcrash

namespace Daemon

/-- A call adds and removes neither objects nor devices. -/
theorem serve_frame (d : Daemon) (c : MethodCall) :
    (d.serve c).daemon.objects = d.objects ∧
      ∀ p, (d.serve c).daemon.HasDevice p ↔ d.HasDevice p := by
  rcases d.serve_cases c with ⟨ending, hserve, _⟩ | ⟨object, m, r, _, _, _, _, hdoes, hserve⟩
  · rw [hserve]
    exact ⟨rfl, fun _ => Iff.rfl⟩
  · rw [hserve, Response.daemon_served]
    exact hdoes.frame

/-- A method becomes busy by crashing, and only a method that starts or stops devices crashes. -/
theorem mem_busy_serve_iff (d : Daemon) (c : MethodCall) (n : Method) :
    n ∈ (d.serve c).daemon.busy ↔ n ∈ d.busy ∨
      (n.isSwitch = true ∧ c.carried.names n = true ∧
        (d.serve c).ending = .crash .counterFull) := by
  rcases d.serve_cases c with ⟨ending, hserve, hidle⟩ | ⟨object, m, r, _, hm, _, _, hdoes, hserve⟩
  · rw [hserve]
    simp [hidle.noCrash]
  · rw [hserve, Response.daemon_served, hdoes.busy n]
    refine or_congr_right ⟨?_, ?_⟩
    · rintro ⟨rfl, hcrash⟩
      exact ⟨hdoes.isSwitch_of_crash hcrash, hm, hcrash⟩
    · rintro ⟨_, hn, hcrash⟩
      exact ⟨MethodCall.names_unique hn hm, hcrash⟩

/-- Updating a device writes its state and does nothing else. -/
theorem exists_of_updateDevice {d d' : Daemon} {device : String} {f : DeviceState → DeviceState}
    (h : d.updateDevice device f = .ok d') :
    ∃ path before, d.devices.get? path = some before ∧
      d' = { d with devices := d.devices.put path (f before) } := by
  unfold updateDevice at h
  split at h
  · cases h
  · next path hpath =>
    split at h
    · cases h
    · next before hdevice => exact ⟨path, before, hdevice, (Except.ok.inj h).symm⟩

end Daemon

/-! ## Runs -/

/-- The daemon after an operation on its bus. -/
def Operation.daemonAfter (o : Operation ω) (d : Daemon) : Daemon :=
  match o with
  | addDevice device =>
    match ObjectPath.ofDevice device with
    | .ok path => d.addDeviceAt path
    | .error _ => d
  | setKnown known => { d with known }
  | updateDevice device f =>
    match d.updateDevice device f with
    | .ok after => after
    | .error _ => d
  | call c => (d.serve c).daemon
  | _ => d

/-- An operation that adds no device leaves the objects, and adds and removes no device. -/
theorem Operation.daemonAfter_frame {o : Operation ω} (h : ∀ p, ¬ adds [o] p) (d : Daemon) :
    (o.daemonAfter d).objects = d.objects ∧
      ∀ p, (o.daemonAfter d).HasDevice p ↔ d.HasDevice p := by
  cases o with
  | addDevice device =>
    cases hpath : ObjectPath.ofDevice device with
    | ok path => exact absurd ⟨device, List.mem_singleton_self _, hpath⟩ (h path)
    | error e => simp [daemonAfter, hpath]
  | updateDevice device f =>
    cases hupdate : d.updateDevice device f with
    | error e => simp [daemonAfter, hupdate]
    | ok d' =>
      obtain ⟨path, before, hdevice, rfl⟩ := Daemon.exists_of_updateDevice hupdate
      rw [daemonAfter, hupdate]
      exact ⟨rfl, Daemon.isSome_get?_put hdevice (f before)⟩
  | call c => exact d.serve_frame c
  | _ => exact ⟨rfl, fun _ => Iff.rfl⟩

namespace Operation

variable {device : String} {f : DeviceState → DeviceState} {d : Daemon} {path : ObjectPath}

theorem get?_daemonAfter_addDevice (h : ObjectPath.ofDevice device = .ok path) :
    ((addDevice device : Operation ω).daemonAfter d).devices.get? path = some .initial := by
  rw [daemonAfter, h]
  exact (Table.get?_put ..).trans (if_pos rfl)

theorem get?_daemonAfter_addDevice_of_ne (h : ObjectPath.ofDevice device ≠ .ok path) :
    ((addDevice device : Operation ω).daemonAfter d).devices.get? path = d.devices.get? path := by
  rw [daemonAfter]
  cases hpath : ObjectPath.ofDevice device with
  | error e => rfl
  | ok other =>
    have hne : other ≠ path := fun heq => h (heq ▸ hpath)
    exact (Table.get?_put ..).trans (if_neg hne)

theorem get?_daemonAfter_updateDevice (h : ObjectPath.ofDevice device = .ok path) :
    ((updateDevice device f : Operation ω).daemonAfter d).devices.get? path =
      (d.devices.get? path).map f := by
  rw [daemonAfter, Daemon.updateDevice, h]
  dsimp only
  cases hdevice : d.devices.get? path with
  | none => exact hdevice
  | some before => exact (Table.get?_put ..).trans (if_pos rfl)

theorem get?_daemonAfter_updateDevice_of_ne (h : ObjectPath.ofDevice device ≠ .ok path) :
    ((updateDevice device f : Operation ω).daemonAfter d).devices.get? path =
      d.devices.get? path := by
  rw [daemonAfter, Daemon.updateDevice]
  cases hpath : ObjectPath.ofDevice device with
  | error e => rfl
  | ok other =>
    have hne : other ≠ path := fun heq => h (heq ▸ hpath)
    dsimp only
    cases d.devices.get? other with
    | none => rfl
    | some before => exact (Table.get?_put ..).trans (if_neg hne)

end Operation

namespace LocalBus

/-- What an operation does to the daemon is a matter of the daemon alone. -/
theorem daemon_next (o : Operation ω) (b : LocalBus ω) :
    (o.next b).daemon = o.daemonAfter b.daemon := by
  cases o with
  | addDevice device =>
    rw [next_addDevice, Operation.daemonAfter]
    cases ObjectPath.ofDevice device <;> rfl
  | updateDevice device f =>
    rw [next_updateDevice, Operation.daemonAfter]
    cases b.daemon.updateDevice device f <;> rfl
  | emitFor device kind payload => rw [next_emitFor]; rfl
  | call c => rw [next_call]; rfl
  | process => rw [next_process]; rfl
  | drain => rw [next_drain]; rfl
  | _ => rfl

theorem agrees_next {b : LocalBus ω} {added : ObjectPath → Prop} (h : b.daemon.Agrees added)
    (o : Operation ω) :
    (o.next b).daemon.Agrees fun p => added p ∨ Operation.adds [o] p := by
  rw [daemon_next]
  by_cases hadd : ∃ p, Operation.adds [o] p
  · obtain ⟨path, device, hmem, hpath⟩ := hadd
    obtain rfl := List.mem_singleton.mp hmem
    have hadds : ∀ p, Operation.adds [(.addDevice device : Operation ω)] p ↔ path = p := by
      intro p
      simp [Operation.adds, hpath]
    simp only [hadds, Operation.daemonAfter, hpath]
    exact h.addDeviceAt (ObjectPath.ofDevice_ne_control hpath)
  · have hnone := not_exists.mp hadd
    obtain ⟨hobjects, hdevices⟩ := Operation.daemonAfter_frame hnone b.daemon
    simp only [hnone, or_false]
    exact h.of_frame hobjects hdevices

/-- Objects and devices agree after every run. -/
theorem agrees_after (ops : List (Operation ω)) :
    (LocalBus.initial.after ops).daemon.Agrees (Operation.adds ops) := by
  induction ops using List.reverseRecOn with
  | nil =>
    have hnone : Operation.adds ([] : List (Operation ω)) = fun _ => False := by
      funext p
      simp [Operation.adds]
    rw [hnone]
    exact Daemon.initial_agrees
  | append_singleton ops o ih =>
    have hadds : Operation.adds (ops ++ [o]) =
        fun p => Operation.adds ops p ∨ Operation.adds [o] p := by
      funext p
      exact propext (Operation.adds_append ops [o] p)
    rw [after_append, hadds]
    exact agrees_next ih o

end LocalBus

/-! ## Busy methods -/

namespace Moment

/-- The operation is a call of the method that crashes on a full counter. -/
def crashes (i : Moment ω) (m : Method) : Prop :=
  ∃ c, i.operation = .call c ∧ c.carried.names m = true ∧
    i.outcome.result = .crash .counterFull

/-- A call crashes on the bus as it does on the daemon. -/
theorem crashes_call_iff {b : LocalBus ω} {c : MethodCall} {m : Method} :
    Moment.crashes ⟨b, .call c⟩ m ↔
      c.carried.names m = true ∧ (b.daemon.serve c).ending = .crash .counterFull := by
  have hresult : (Moment.outcome ⟨b, .call c⟩).result = .crash .counterFull ↔
      (b.daemon.serve c).ending = .crash .counterFull := by
    rw [result_call]
    cases (b.daemon.serve c).ending <;> simp
  constructor
  · rintro ⟨c', hc', hnames, hcrash⟩
    obtain rfl := Operation.call.inj hc'
    exact ⟨hnames, hresult.mp hcrash⟩
  · rintro ⟨hnames, hcrash⟩
    exact ⟨c, rfl, hnames, hresult.mpr hcrash⟩

end Moment

namespace LocalBus

theorem mem_busy_next_iff (b : LocalBus ω) (o : Operation ω) (m : Method) :
    m ∈ (o.next b).daemon.busy ↔
      m ∈ b.daemon.busy ∨ (m.isSwitch = true ∧ Moment.crashes ⟨b, o⟩ m) := by
  rw [daemon_next]
  cases o with
  | call c =>
    rw [Operation.daemonAfter, Daemon.mem_busy_serve_iff, Moment.crashes_call_iff]
  | addDevice device =>
    rw [Operation.daemonAfter]
    cases ObjectPath.ofDevice device <;> simp [Daemon.addDeviceAt, Moment.crashes]
  | updateDevice device f =>
    rw [Operation.daemonAfter]
    cases hupdate : b.daemon.updateDevice device f with
    | error e => simp [Moment.crashes]
    | ok d' =>
      obtain ⟨path, before, _, rfl⟩ := Daemon.exists_of_updateDevice hupdate
      simp [Moment.crashes]
  | _ => simp [Operation.daemonAfter, Moment.crashes]

/-- The methods that are busy after a run were busy before it, or crashed in it. -/
theorem mem_busy_after_iff (b : LocalBus ω) (ops : List (Operation ω)) (m : Method) :
    m ∈ (b.after ops).daemon.busy ↔
      m ∈ b.daemon.busy ∨ (m.isSwitch = true ∧ ∃ i ∈ moments b ops, i.crashes m) := by
  induction ops generalizing b with
  | nil => simp [after, moments]
  | cons o ops ih =>
    rw [after, ih (o.next b), mem_busy_next_iff, or_assoc, ← and_or_left]
    simp [moments]

theorem mem_busy_iff (ops : List (Operation ω)) (m : Method) :
    m ∈ (LocalBus.initial.after ops).daemon.busy ↔
      m.isSwitch = true ∧ ∃ i ∈ moments .initial ops, i.crashes m := by
  rw [mem_busy_after_iff]
  simp [initial, Daemon.initial]

end LocalBus

/-! ## Clients -/

/-- A client is made exactly for a device that was added, and then it is listed behind the
others. -/
theorem Daemon.Agrees.serve_create {d : Daemon} {added : ObjectPath → Prop} (h : d.Agrees added)
    (hbusy : .create ∉ d.busy) {c : MethodCall} {device : String}
    (hpath : c.carried.path = .control) (hnames : c.carried.names .create = true)
    (hargument : argument c.arguments 0 = .ok device) :
    (∃ path, ObjectPath.ofDevice device = .ok path ∧ added path ∧
      d.serve c = ⟨.ok [.objectPath path], [], { d with clients := d.clients ++ [device] }⟩) ∨
    (∀ path, ObjectPath.ofDevice device = .ok path → ¬ added path) ∧
      ∃ f, d.serve c = ⟨.error (.fault f), [], d⟩ := by
  have hobject := (h.control _).mpr hpath
  rw [serve_of_badName?_eq_none (MethodCall.badName?_of_names hnames),
    answer_of_names hobject hnames (by decide), if_neg hbusy]
  have hdoes := d.does_run c.carried.path .control c.carried.arguments .create
  generalize d.run c.carried.path .control c.carried.arguments .create = r at hdoes
  cases hdoes with
  | created hargument' hdevicePath hdevice =>
    obtain rfl := Except.ok.inj (hargument.symm.trans hargument')
    exact .inl ⟨_, hdevicePath, (h.opens _).mp hdevice, rfl⟩
  | uncreated f _ hnone =>
    refine .inr ⟨fun path hdevicePath => ?_, f, rfl⟩
    exact mt (h.opens path).mpr (hnone device path hargument hdevicePath)
  | told hquery _ => cases hquery
  | scanned hscan _ => rcases hscan with hscan | hscan <;> cases hscan
  | switched hswitch _ _ _ => cases hswitch
  | crashed hswitch _ _ => cases hswitch
  | vanished hdevice _ => cases hdevice

/-! ## Devices -/

/-- The object of a device runs every method of devices, unless the method is busy. -/
theorem Daemon.Agrees.serve_at_device {d : Daemon} {added : ObjectPath → Prop} (h : d.Agrees added)
    {c : MethodCall} {m : Method} (hnames : c.carried.names m = true)
    (hm : m.interface.isOfDevice = true) (hpath : added c.carried.path) :
    d.serve c =
      if m ∈ d.busy then ⟨.error (.fault (.methodBusy m.name)), [], d⟩
      else (d.run c.carried.path .device c.carried.arguments m).served d := by
  have hobject := (h.device _).mpr hpath
  have hoffered := (Interface.mem_interfaces_iff_of_isOfDevice hm .device).mpr rfl
  rw [serve_of_badName?_eq_none (MethodCall.badName?_of_names hnames),
    answer_of_names hobject hnames hoffered]
  split <;> rfl

namespace LocalBus

/-- Objects and devices agree in every state that is reached. -/
theorem Reachable.agrees {b : LocalBus ω} (h : b.Reachable) :
    b.daemon.Agrees b.daemon.HasDevice := by
  obtain ⟨ops, rfl⟩ := reachable_iff.mp h
  have hagrees : (LocalBus.initial.after ops).daemon.Agrees (Operation.adds ops) := agrees_after ops
  have hadds : Operation.adds ops = (LocalBus.initial.after ops).daemon.HasDevice :=
    funext fun path => propext (hagrees.opens path).symm
  rwa [hadds] at hagrees

/-- The path of a device is that of some name. -/
theorem Reachable.exists_ofDevice {b : LocalBus ω} (h : b.Reachable) {path : ObjectPath}
    (hdevice : b.daemon.HasDevice path) : ∃ device, ObjectPath.ofDevice device = .ok path := by
  obtain ⟨ops, rfl⟩ := reachable_iff.mp h
  obtain ⟨device, _, hpath⟩ := ((agrees_after ops).opens path).mp hdevice
  exact ⟨device, hpath⟩

theorem Reachable.carried_path {b : LocalBus ω} (h : b.Reachable) {path : ObjectPath}
    (hdevice : b.daemon.HasDevice path) : path.carried = path := by
  obtain ⟨device, hpath⟩ := h.exists_ofDevice hdevice
  exact ObjectPath.carried_of_ofDevice hpath

/-- No method is ever busy but one that starts or stops devices. -/
theorem Reachable.isSwitch_of_mem_busy {b : LocalBus ω} (h : b.Reachable) {m : Method}
    (hm : m ∈ b.daemon.busy) : m.isSwitch = true := by
  obtain ⟨ops, rfl⟩ := reachable_iff.mp h
  exact ((mem_busy_iff ops m).mp hm).1

/-- The object of a device with a name of one letter. -/
def lettered (c : Char) : ObjectPath :=
  .child [c] (List.cons_ne_nil c [])

end LocalBus

end Positioning
