import Mathlib.Data.List.Nodup
import Positioning.Proofs.Bus.Run

/-!
# What a call comes to

A call that names a method of the object at its path runs the method, unless the method is busy. All
other calls leave the daemon as it is. What a method may do is told once, by `Method.Does`, and read
off there by everything that is proved about calls.

## Main definitions

- `MethodCall.names` says that a call names a method.
- `Method.Does` relates a method to the responses that it may give.
- `DeviceState.isFullFor` says that a method of a device can be counted no more.

## Main statements

- `Daemon.findMethod_eq_ok_iff`: a call finds the method that it names, where it is offered.
- `Daemon.does_run`: a method does no more than it may.
- `Daemon.serve_cases`: what a call comes to, whatever is called.
-/

namespace Positioning

open Wire

/-! ## Names -/

namespace Wire

/-- Whether a text names an interface is a matter of what arrives of it. -/
theorem isInterfaceName_carried (text : String) :
    isInterfaceName (carried text) = isInterfaceName text := by
  unfold isInterfaceName
  rw [carried_carried, carried, String.toList_ofList, carriedChars_carriedChars]

theorem isMemberName_carried (text : String) :
    isMemberName (carried text) = isMemberName text := by
  unfold isMemberName
  rw [carried_carried, carried, String.toList_ofList, carriedChars_carriedChars]

end Wire

/-- An injective name finds its bearer in a list. -/
theorem find?_name_of_mem {α : Type} {name : α → String} (hname : Function.Injective name)
    {x : α} {xs : List α} (hx : x ∈ xs) : xs.find? (fun y => name y = name x) = some x := by
  induction xs with
  | nil => exact absurd hx List.not_mem_nil
  | cons y ys ih =>
    by_cases hy : name y = name x
    · rw [List.find?_cons_of_pos (by simpa using hy), hname hy]
    · rw [List.find?_cons_of_neg (by simpa using hy)]
      refine ih ((List.mem_cons.mp hx).resolve_left ?_)
      rintro rfl
      exact hy rfl

namespace Interface

theorem name_injective : Function.Injective name := by
  intro i j
  cases i <;> cases j <;> decide

theorem isInterfaceName_name (i : Interface) : isInterfaceName i.name = true := by
  cases i <;> decide +kernel

theorem carried_name (i : Interface) : carried i.name = i.name := by
  cases i <;> decide +kernel

theorem name_ne_peer (i : Interface) : i.name ≠ peer := by
  cases i <;> decide

/-- The interfaces of device objects. -/
def isOfDevice : Interface → Bool
  | device => true
  | position => true
  | course => true
  | accuracy => true
  | satellite => true
  | time => true
  | _ => false

/-- An interface of devices is offered by device objects and by no others. -/
theorem mem_interfaces_iff_of_isOfDevice {i : Interface} (h : i.isOfDevice = true)
    (object : Object) : i ∈ object.interfaces ↔ object = .device := by
  cases i <;> cases object <;> simp [isOfDevice, Object.interfaces] at h ⊢

end Interface

namespace Method

theorem mem_all (m : Method) : m ∈ all := by
  cases m <;> decide

theorem isMemberName_name (m : Method) : isMemberName m.name = true := by
  cases m <;> decide +kernel

theorem carried_name (m : Method) : carried m.name = m.name := by
  cases m <;> decide +kernel

theorem name_injective : Function.Injective name := by
  intro m n h
  have hnodup : (all.map name).Nodup := by decide +kernel
  exact List.inj_on_of_nodup_map hnodup m.mem_all n.mem_all h

end Method

namespace MethodCall

/-- The call names a method, by its interface and its name. -/
def names (c : MethodCall) (m : Method) : Bool :=
  c.interface = m.interface.name && c.method = m.name

theorem names_iff {c : MethodCall} {m : Method} :
    c.names m = true ↔ c.interface = m.interface.name ∧ c.method = m.name := by
  simp [names]

/-- A call names one method at most. -/
theorem names_unique {c : MethodCall} {m n : Method} (hm : c.names m = true)
    (hn : c.names n = true) : m = n :=
  Method.name_injective ((names_iff.mp hm).2.symm.trans (names_iff.mp hn).2)

theorem interface_ne_peer {c : MethodCall} {m : Method} (h : c.names m = true) :
    c.interface ≠ Interface.peer := by
  rw [(names_iff.mp h).1]
  exact m.interface.name_ne_peer

/-- What arrives as a call of a method is a call under good names. -/
theorem badName?_of_names {c : MethodCall} {m : Method} (h : c.carried.names m = true) :
    c.badName? = none := by
  have hnames : Wire.carried c.interface = m.interface.name ∧ Wire.carried c.method = m.name :=
    names_iff.mp h
  have hgoodInterface : isInterfaceName c.interface = true := by
    rw [← isInterfaceName_carried, hnames.1]
    exact m.interface.isInterfaceName_name
  have hgoodMethod : isMemberName c.method = true := by
    rw [← isMemberName_carried, hnames.2]
    exact m.isMemberName_name
  simp [badName?, BadName.of?, hgoodInterface, hgoodMethod]

end MethodCall

/-- The call of a method under its own names. -/
def Method.callAt (m : Method) (path : ObjectPath) (arguments : List Value) : MethodCall :=
  ⟨path, m.interface.name, m.name, arguments⟩

/-- A call under the names of a method arrives as one of the method. -/
theorem Method.names_callAt (m : Method) (path : ObjectPath) (arguments : List Value) :
    (m.callAt path arguments).carried.names m = true :=
  MethodCall.names_iff.mpr ⟨m.interface.carried_name, m.carried_name⟩

namespace Daemon

/-- A call finds the method that it names, if the object offers the interface of the method. -/
theorem findMethod_eq_ok_iff {object : Object} {c : MethodCall} {m : Method} :
    findMethod object c = .ok m ↔ c.names m = true ∧ m.interface ∈ object.interfaces := by
  rw [MethodCall.names_iff]
  constructor
  · intro h
    unfold findMethod at h
    split at h
    · cases h
    · next i hi =>
      split at h
      · cases h
      · next found hfound =>
        obtain rfl := Except.ok.inj h
        have hinterface : found.interface = i := by
          simpa [Interface.methods] using (List.mem_filter.mp (List.mem_of_find?_eq_some hfound)).2
        have hi' := List.find?_some hi
        have hfound' := List.find?_some hfound
        simp only [decide_eq_true_eq] at hi' hfound'
        exact ⟨⟨by rw [hinterface, hi'], hfound'.symm⟩,
          hinterface ▸ List.mem_of_find?_eq_some hi⟩
  · rintro ⟨⟨hinterface, hmethod⟩, hoffered⟩
    have hmem : m ∈ m.interface.methods := List.mem_filter.mpr ⟨m.mem_all, by simp⟩
    unfold findMethod
    rw [hinterface, find?_name_of_mem Interface.name_injective hoffered]
    dsimp only
    rw [hmethod, find?_name_of_mem Method.name_injective hmem]

end Daemon

/-! ## What methods may do -/

namespace Response

/-- The daemon that a response leaves. -/
def after (d : Daemon) : Response → Daemon
  | answered a => a.daemon
  | refused _ => d
  | crashed d' => d'

/-- A response as the caller gets it. -/
def served (d : Daemon) : Response → Served
  | answered a => ⟨.ok a.reply, a.signals, a.daemon⟩
  | refused f => ⟨.error (.fault f), [], d⟩
  | crashed d' => ⟨.crash .counterFull, [], d'⟩

theorem daemon_served (d : Daemon) (r : Response) : (r.served d).daemon = r.after d := by
  cases r <;> rfl

end Response

namespace DeviceState

/-- How often a method of a device was called, where that is counted. -/
def count? (s : DeviceState) : Method → Option UInt32
  | .start => some s.started
  | .stop => some s.stopped
  | _ => none

/-- A method of a device was called as often as can be counted. -/
def isFullFor (s : DeviceState) (m : Method) : Bool :=
  (s.count? m).any fun n => n.toNat + 1 = UInt32.size

end DeviceState

/-- There is no room for one more exactly on a full counter. -/
theorem Daemon.countOn?_eq_none_iff {n : UInt32} :
    countOn? n = none ↔ n.toNat + 1 = UInt32.size := by
  have hlt := n.toNat_lt_size
  unfold countOn?
  split
  · simp only [reduceCtorEq, false_iff]
    omega
  · simp only [true_iff]
    omega

/-- There is a device behind the object at a path. -/
def Daemon.HasDevice (d : Daemon) (path : ObjectPath) : Prop :=
  (d.devices.get? path).isSome = true

namespace Method

/-- The methods that start and stop devices. -/
def isSwitch : Method → Bool
  | start => true
  | stop => true
  | _ => false

/-- The methods that tell something and change nothing. -/
def isQuery : Method → Bool
  | create => false
  | shutdown => false
  | startScanning => false
  | stopScanning => false
  | start => false
  | stop => false
  | _ => true

/-- What a method of the object at a path may come to. -/
inductive Does (d : Daemon) (path : ObjectPath) (arguments : List Value) :
    Method → Response → Prop where
  | told {m : Method} (hm : m.isQuery = true) (values : List Value) :
      Does d path arguments m (.answered (d.reply values))
  | created {device : String} {target : ObjectPath} (hargument : argument arguments 0 = .ok device)
      (hpath : ObjectPath.ofDevice device = .ok target) (hdevice : d.HasDevice target) :
      Does d path arguments .create
        (.answered ⟨[.objectPath target], [], { d with clients := d.clients ++ [device] }⟩)
  | uncreated (f : Fault) (hf : ∀ client, f ≠ .noSuchClient client)
      (hnone : ∀ device target, argument arguments 0 = .ok device →
        ObjectPath.ofDevice device = .ok target → ¬ d.HasDevice target) :
      Does d path arguments .create (.refused f)
  | released {client : String} (hargument : argument arguments 0 = .ok client)
      (hclient : client ∈ d.clients) :
      Does d path arguments .shutdown
        (.answered ⟨[], [], { d with clients := d.clients.erase client }⟩)
  | unreadable (m : Mismatch) (hargument : (argument arguments 0 : Except _ String) = .error m) :
      Does d path arguments .shutdown (.refused (.badArguments m))
  | unlisted {client : String} (hargument : argument arguments 0 = .ok client)
      (hclient : client ∉ d.clients) :
      Does d path arguments .shutdown (.refused (.noSuchClient client))
  | scanned {m : Method} (hm : m = .startScanning ∨ m = .stopScanning) (scanning : Bool) :
      Does d path arguments m (.answered ⟨[], [], { d with scanning }⟩)
  | switched {m : Method} {before : DeviceState} (hm : m.isSwitch = true)
      (hdevice : d.devices.get? path = some before) (hroom : before.isFullFor m = false)
      (after : DeviceState) :
      Does d path arguments m (.answered (d.connect path before after))
  | crashed {m : Method} {before : DeviceState} (hm : m.isSwitch = true)
      (hdevice : d.devices.get? path = some before) (hfull : before.isFullFor m = true) :
      Does d path arguments m (.crashed (d.crashIn m))
  | vanished {m : Method} (hm : m.interface.isOfDevice = true) (hdevice : ¬ d.HasDevice path) :
      Does d path arguments m (.refused (.noSuchClient path.text))

end Method

namespace Daemon

/-- A getter of a device tells something, if there is a device. -/
theorem does_getter (d : Daemon) (path : ObjectPath) (arguments : List Value) {m : Method}
    (hdevice : m.interface.isOfDevice = true) (hquery : m.isQuery = true)
    (values : DeviceState → List Value) : m.Does d path arguments (d.getter path values) := by
  unfold getter deviceAt
  cases hstate : d.devices.get? path with
  | none => exact .vanished hdevice (by simp [HasDevice, hstate])
  | some state => exact .told hquery _

/-- Making a client succeeds exactly for a device that the daemon can open. -/
theorem does_create (d : Daemon) (path : ObjectPath) {arguments : List Value} {device : String}
    (hargument : argument arguments 0 = .ok device) :
    Method.create.Does d path arguments (d.create device) := by
  unfold create
  cases hpath : ObjectPath.ofDevice device with
  | error e =>
    refine .uncreated _ (fun _ => by simp) fun device' target hargument' hpath' => ?_
    rw [hargument, Except.ok.injEq] at hargument'
    rw [← hargument', hpath] at hpath'
    cases hpath'
  | ok target =>
    dsimp only
    cases hdevice : d.devices.get? target with
    | none =>
      refine .uncreated _ (fun _ => by simp) fun device' target' hargument' hpath' => ?_
      rw [hargument, Except.ok.injEq] at hargument'
      rw [← hargument', hpath, Except.ok.injEq] at hpath'
      simp [HasDevice, ← hpath', hdevice]
    | some state => exact .created hargument hpath (by simp [HasDevice, hdevice])

/-- Releasing a client succeeds exactly for one that is listed. -/
theorem does_shutdown (d : Daemon) (path : ObjectPath) {arguments : List Value} {client : String}
    (hargument : argument arguments 0 = .ok client) :
    Method.shutdown.Does d path arguments (d.shutdown client) := by
  unfold shutdown
  split
  · next hclient => exact .released hargument hclient
  · next hclient => exact .unlisted hargument hclient

/-- Starting counts and connects, or crashes on a full counter. -/
theorem does_start (d : Daemon) (path : ObjectPath) (arguments : List Value) :
    Method.start.Does d path arguments (d.start path) := by
  unfold start deviceAt
  cases hdevice : d.devices.get? path with
  | none => exact .vanished rfl (by simp [HasDevice, hdevice])
  | some state =>
    have hfull : state.isFullFor .start = true ↔ countOn? state.started = none := by
      simp [countOn?_eq_none_iff, DeviceState.isFullFor, DeviceState.count?]
    dsimp only
    cases hcount : countOn? state.started with
    | none => exact .crashed rfl hdevice (hfull.mpr hcount)
    | some started =>
      rw [hcount] at hfull
      exact .switched rfl hdevice (by simpa using hfull) _

theorem does_stop (d : Daemon) (path : ObjectPath) (arguments : List Value) :
    Method.stop.Does d path arguments (d.stop path) := by
  unfold stop deviceAt
  cases hdevice : d.devices.get? path with
  | none => exact .vanished rfl (by simp [HasDevice, hdevice])
  | some state =>
    have hfull : state.isFullFor .stop = true ↔ countOn? state.stopped = none := by
      simp [countOn?_eq_none_iff, DeviceState.isFullFor, DeviceState.count?]
    dsimp only
    cases hcount : countOn? state.stopped with
    | none => exact .crashed rfl hdevice (hfull.mpr hcount)
    | some stopped =>
      rw [hcount] at hfull
      exact .switched rfl hdevice (by simpa using hfull) _

/-- A method does no more than it may. -/
theorem does_run (d : Daemon) (path : ObjectPath) (object : Object) (arguments : List Value)
    (m : Method) : m.Does d path arguments (d.run path object arguments m) := by
  cases m with
  | create =>
    unfold run
    cases hargument : (argument arguments 0 : Except Mismatch String) with
    | error e =>
      refine .uncreated _ (fun _ => by simp) fun device target hargument' _ => ?_
      rw [hargument] at hargument'
      cases hargument'
    | ok device => exact d.does_create path hargument
  | shutdown =>
    unfold run
    cases hargument : (argument arguments 0 : Except Mismatch String) with
    | error e => exact .unreadable e hargument
    | ok client => exact d.does_shutdown path hargument
  | introspect => exact .told rfl _
  | listDevices => exact .told rfl _
  | startScanning => exact .scanned (.inl rfl) true
  | stopScanning => exact .scanned (.inr rfl) false
  | start => exact d.does_start path arguments
  | stop => exact d.does_stop path arguments
  | getFixStatus => exact d.does_getter path arguments rfl rfl _
  | getConnectionStatus => exact d.does_getter path arguments rfl rfl _
  | getPosition => exact d.does_getter path arguments rfl rfl _
  | getCourse => exact d.does_getter path arguments rfl rfl _
  | getAccuracy => exact d.does_getter path arguments rfl rfl _
  | getSatellites => exact d.does_getter path arguments rfl rfl _
  | getTime => exact d.does_getter path arguments rfl rfl _

end Daemon

/-! ## What calls come to -/

/-- A call that runs no method may end like this: no counter is full, no client is missed, and no
method is answered. -/
structure MethodCall.EndsIdle (c : MethodCall) (ending : Ending ClientError (List Value)) :
    Prop where
  noCrash : ending ≠ .crash .counterFull
  noClient : ∀ client, ending ≠ .error (.fault (.noSuchClient client))
  noAnswer : ∀ m, c.carried.names m = true → ∀ values, ending ≠ .ok values

namespace Daemon

/-- A call under good names is answered as it is carried. -/
theorem serve_of_badName?_eq_none {c : MethodCall} (h : c.badName? = none) (d : Daemon) :
    d.serve c = (d.answer c.carried).served d := by
  unfold serve
  rw [h]
  dsimp only
  cases d.answer c.carried <;> rfl

/-- A call that names a method of the object at its path runs the method, if it is not busy. -/
theorem answer_of_names {d : Daemon} {c : MethodCall} {object : Object} {m : Method}
    (hobject : d.objects.get? c.path = some object) (hnames : c.names m = true)
    (hoffered : m.interface ∈ object.interfaces) :
    d.answer c =
      if m ∈ d.busy then .refused (.methodBusy m.name)
      else d.run c.path object c.arguments m := by
  unfold answer
  rw [if_neg (MethodCall.interface_ne_peer hnames), hobject]
  dsimp only
  rw [findMethod_eq_ok_iff.mpr ⟨hnames, hoffered⟩]

/-- A call that finds no method misses no client. -/
theorem ne_noSuchClient_of_findMethod {object : Object} {c : MethodCall} {f : Fault}
    (h : findMethod object c = .error f) (client : String) : f ≠ .noSuchClient client := by
  unfold findMethod at h
  split at h
  · rw [← Except.error.inj h]
    simp
  · split at h
    · rw [← Except.error.inj h]
      simp
    · cases h

/-- A call either leaves the daemon as it is, or runs the method that it names. -/
theorem serve_cases (d : Daemon) (c : MethodCall) :
    (∃ ending, d.serve c = ⟨ending, [], d⟩ ∧ c.EndsIdle ending) ∨
      ∃ object m r, d.objects.get? c.carried.path = some object ∧ c.carried.names m = true ∧
        m.interface ∈ object.interfaces ∧ m ∉ d.busy ∧
        m.Does d c.carried.path c.arguments r ∧ d.serve c = r.served d := by
  cases hbad : c.badName? with
  | some e =>
    refine .inl ⟨.crash (.badName e), ?_, ⟨by simp, by simp, by simp⟩⟩
    unfold serve
    rw [hbad]
  | none =>
    rw [serve_of_badName?_eq_none hbad]
    by_cases hpeer : c.carried.interface = Interface.peer
    · -- The peer interface is answered on every path, but declares none of the methods.
      have hnone : ∀ m, c.carried.names m ≠ true := fun m hm =>
        MethodCall.interface_ne_peer hm hpeer
      unfold answer
      rw [if_pos hpeer]
      split
      · exact .inl ⟨.ok [], rfl, ⟨by simp, by simp, fun m hm => absurd hm (hnone m)⟩⟩
      · exact .inl ⟨_, rfl, ⟨by simp, by simp, by simp⟩⟩
    · cases hobject : d.objects.get? c.carried.path with
      | none =>
        unfold answer
        rw [if_neg hpeer, hobject]
        exact .inl ⟨_, rfl, ⟨by simp, by simp, by simp⟩⟩
      | some object =>
        cases hfind : findMethod object c.carried with
        | error f =>
          have hf := ne_noSuchClient_of_findMethod hfind
          unfold answer
          rw [if_neg hpeer, hobject]
          dsimp only
          rw [hfind]
          exact .inl ⟨.error (.fault f), rfl, ⟨by simp, by simpa using hf, by simp⟩⟩
        | ok m =>
          obtain ⟨hnames, hoffered⟩ := findMethod_eq_ok_iff.mp hfind
          rw [answer_of_names hobject hnames hoffered]
          split
          · exact .inl ⟨.error (.fault (.methodBusy m.name)), rfl, ⟨by simp, by simp, by simp⟩⟩
          · next hbusy =>
            exact .inr ⟨object, m, _, rfl, hnames, hoffered, hbusy, d.does_run _ _ _ m, rfl⟩

end Daemon

end Positioning
