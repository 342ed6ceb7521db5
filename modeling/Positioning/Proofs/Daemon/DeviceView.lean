import Positioning.Proofs.Daemon.Registry
import Positioning.Proofs.Daemon.Switches

/-!
# What a device sees of the daemon

What is asked of one device depends on little: on the state of the device, on the clients under
names of it, and on the methods that are busy. Two daemons that are the same in this give the same
results and signals, and stay the same in it. All that is asked of other devices leaves this as it
is, but for a method that crashes and so becomes busy for all of them.

## Main definitions

- `MethodCall.addressee?` is the path of the device that a call is addressed to.
- `Daemon.SameAt` says that two daemons are the same for the device at a path.

## Main statements

- `Daemon.SameAt.serve`: a call addressed to the device comes to the same on both.
- `Daemon.serve_other`: a call addressed to another device leaves the daemon the same.
-/

namespace Positioning

open Wire

/-! ## Addressees -/

namespace ObjectPath

theorem toOption_ofDevice_eq_some_iff {device : String} {path : ObjectPath} :
    (ofDevice device).toOption = some path ↔ ofDevice device = .ok path := by
  cases ofDevice device <;> simp [Except.toOption]

/-- A name of the device at a path. -/
def isNamed (path : ObjectPath) (device : String) : Bool :=
  (ofDevice device).toOption = some path

theorem isNamed_iff {path : ObjectPath} {device : String} :
    path.isNamed device = true ↔ ofDevice device = .ok path :=
  decide_eq_true_iff.trans toOption_ofDevice_eq_some_iff

end ObjectPath

namespace MethodCall

/-- The device that a call is addressed to: for calls about a client the device of the client's
name, for others the device at the path of the call. What is asked of discovery concerns none. -/
def addressee? (c : MethodCall) : Option ObjectPath :=
  if c.carried.names .create || c.carried.names .shutdown then
    match (argument c.arguments 0 : Except Mismatch String) with
    | .ok device => (ObjectPath.ofDevice device).toOption
    | .error _ => none
  else if c.carried.interface = Interface.discovery.name then none
  else some c.carried.path

theorem addressee?_of_isAbout {c : MethodCall} {m : Method} {client : String}
    (hm : m = .create ∨ m = .shutdown) (h : c.isAbout m client = true) :
    c.addressee? = (ObjectPath.ofDevice client).toOption := by
  obtain ⟨hnames, hargument⟩ := isAbout_iff.mp h
  have hclient : (c.carried.names .create || c.carried.names .shutdown) = true := by
    rcases hm with rfl | rfl <;> simp [hnames]
  unfold addressee?
  rw [if_pos hclient, hargument]

/-- A call of a method of devices is addressed to the device at its path. -/
theorem addressee?_of_isOfDevice {c : MethodCall} {m : Method} (h : c.carried.names m = true)
    (hm : m.interface.isOfDevice = true) : c.addressee? = some c.carried.path := by
  have hother : ∀ n, n.interface.isOfDevice = false → c.carried.names n = false := by
    intro n hn
    by_contra hnames
    rw [names_unique h (eq_true_of_ne_false hnames), hn] at hm
    cases hm
  have hinterface : c.carried.interface ≠ Interface.discovery.name := by
    rw [(names_iff.mp h).1]
    intro hsame
    rw [Interface.name_injective hsame] at hm
    cases hm
  unfold addressee?
  rw [hother .create rfl, hother .shutdown rfl, Bool.or_false, if_neg Bool.false_ne_true,
    if_neg hinterface]

/-- A call that is addressed to a device names it as a client, or is called at its path. -/
theorem isAbout_or_path_of_addressee? {c : MethodCall} {path : ObjectPath}
    (h : c.addressee? = some path) :
    (∃ m client, (m = .create ∨ m = .shutdown) ∧ c.isAbout m client = true ∧
      path.isNamed client = true) ∨ c.carried.path = path := by
  unfold addressee? at h
  split at h
  · next hnames =>
    split at h
    · next client hargument =>
      have hnamed : path.isNamed client = true := decide_eq_true h
      rcases Bool.or_eq_true_iff.mp hnames with hcreate | hshutdown
      · exact .inl ⟨.create, client, .inl rfl, isAbout_iff.mpr ⟨hcreate, hargument⟩, hnamed⟩
      · exact .inl ⟨.shutdown, client, .inr rfl, isAbout_iff.mpr ⟨hshutdown, hargument⟩, hnamed⟩
    · cases h
  · split at h
    · cases h
    · exact .inr (Option.some.inj h)

end MethodCall

namespace Daemon

/-- Two daemons are the same for the device at a path. -/
structure SameAt (path : ObjectPath) (d d' : Daemon) : Prop where
  device : d.devices.get? path = d'.devices.get? path
  clients : d.clients.filter path.isNamed = d'.clients.filter path.isNamed
  busy : ∀ m, m ∈ d.busy ↔ m ∈ d'.busy

variable {path : ObjectPath} {d d' d'' : Daemon}

theorem SameAt.refl (path : ObjectPath) (d : Daemon) : SameAt path d d :=
  ⟨rfl, rfl, fun _ => Iff.rfl⟩

theorem SameAt.symm (h : SameAt path d d') : SameAt path d' d :=
  ⟨h.device.symm, h.clients.symm, fun m => (h.busy m).symm⟩

theorem SameAt.trans (h : SameAt path d d') (h' : SameAt path d' d'') : SameAt path d d'' :=
  ⟨h.device.trans h'.device, h.clients.trans h'.clients, fun m => (h.busy m).trans (h'.busy m)⟩

end Daemon

/-- A call came to the same on two daemons, which are the same still for the device at a path. -/
structure Served.SameAt (path : ObjectPath) (x y : Served) : Prop where
  ending : x.ending = y.ending
  signals : x.signals = y.signals
  daemon : x.daemon.SameAt path y.daemon

namespace Daemon

variable {path : ObjectPath} {d d' : Daemon}

/-! ## What is addressed to the device -/

theorem SameAt.refuse (h : SameAt path d d') (f : Fault) :
    ((Response.refused f).served d).SameAt path ((Response.refused f).served d') :=
  ⟨rfl, rfl, h⟩

/-- A getter tells the same of the same state. -/
theorem SameAt.getter (h : SameAt path d d') (values : DeviceState → List Value) :
    ((d.getter path values).served d).SameAt path ((d'.getter path values).served d') := by
  have hdevice := h.device
  unfold Daemon.getter deviceAt
  rw [hdevice]
  cases d'.devices.get? path <;> exact ⟨rfl, rfl, h⟩

theorem SameAt.connect (h : SameAt path d d') (before after : DeviceState) :
    ((Response.answered (d.connect path before after)).served d).SameAt path
      ((Response.answered (d'.connect path before after)).served d') := by
  refine ⟨rfl, rfl, ?_, h.clients, h.busy⟩
  have hput : ∀ devices : Table ObjectPath DeviceState,
      (devices.put path after).get? path = some after :=
    fun devices => (Table.get?_put ..).trans (if_pos rfl)
  exact (hput d.devices).trans (hput d'.devices).symm

theorem SameAt.crashIn (h : SameAt path d d') (m : Method) :
    ((Response.crashed (d.crashIn m)).served d).SameAt path
      ((Response.crashed (d'.crashIn m)).served d') :=
  ⟨rfl, rfl, h.device, h.clients, fun n => by simp [Response.served, Daemon.crashIn, h.busy n]⟩

/-- A method is busy on both or on none, and what is busy is refused. -/
theorem SameAt.unless_busy (h : SameAt path d d') {m : Method} {f : Fault} {r r' : Response}
    (hfree : (r.served d).SameAt path (r'.served d')) :
    ((if m ∈ d.busy then .refused f else r).served d).SameAt path
      ((if m ∈ d'.busy then .refused f else r').served d') := by
  by_cases hbusy : m ∈ d.busy
  · rw [if_pos hbusy, if_pos ((h.busy m).mp hbusy)]
    exact h.refuse f
  · rw [if_neg hbusy, if_neg (mt (h.busy m).mpr hbusy)]
    exact hfree

theorem SameAt.run (h : SameAt path d d') {m : Method} (hm : m.interface.isOfDevice = true)
    (arguments : List Value) :
    ((d.run path .device arguments m).served d).SameAt path
      ((d'.run path .device arguments m).served d') := by
  have hdevice := h.device
  cases m with
  | start =>
    unfold Daemon.run start deviceAt
    rw [hdevice]
    cases d'.devices.get? path with
    | none => exact h.refuse _
    | some state =>
      dsimp only
      cases countOn? state.started with
      | none => exact h.crashIn .start
      | some started => exact h.connect ..
  | stop =>
    unfold Daemon.run stop deviceAt
    rw [hdevice]
    cases d'.devices.get? path with
    | none => exact h.refuse _
    | some state =>
      dsimp only
      cases countOn? state.stopped with
      | none => exact h.crashIn .stop
      | some stopped => exact h.connect ..
  | getFixStatus => exact h.getter _
  | getConnectionStatus => exact h.getter _
  | getPosition => exact h.getter _
  | getCourse => exact h.getter _
  | getAccuracy => exact h.getter _
  | getSatellites => exact h.getter _
  | getTime => exact h.getter _
  | _ => cases hm

/-- A call at the path of the device comes to the same on both, but for introspection. -/
theorem SameAt.serve_path (h : SameAt path d d') {c : MethodCall} (hc : c.carried.path = path)
    (hobject : d.objects.get? path = some .device) (hobject' : d'.objects.get? path = some .device)
    (hintrospect : c.carried.names .introspect = false) :
    (d.serve c).SameAt path (d'.serve c) := by
  cases hbad : c.badName? with
  | some e =>
    unfold serve
    rw [hbad]
    exact ⟨rfl, rfl, h⟩
  | none =>
    rw [serve_of_badName?_eq_none hbad, serve_of_badName?_eq_none hbad]
    unfold answer
    rw [hc, hobject, hobject']
    by_cases hpeer : c.carried.interface = Interface.peer
    · rw [if_pos hpeer, if_pos hpeer]
      split
      · exact ⟨rfl, rfl, h⟩
      · exact h.refuse _
    · rw [if_neg hpeer, if_neg hpeer]
      dsimp only
      cases hfind : findMethod .device c.carried with
      | error f => exact h.refuse f
      | ok m =>
        obtain ⟨hnames, hoffered⟩ := findMethod_eq_ok_iff.mp hfind
        -- The object of a device offers its own methods and introspection, nothing else.
        have hm : m.interface.isOfDevice = true := by
          cases m <;> first | rfl | simp [Object.interfaces, Method.interface] at hoffered
          rw [hnames] at hintrospect
          cases hintrospect
        exact h.unless_busy (h.run hm c.carried.arguments)

theorem SameAt.create (h : SameAt path d d') {device : String}
    (hdevice : path.isNamed device = true) :
    ((d.create device).served d).SameAt path ((d'.create device).served d') := by
  unfold Daemon.create
  rw [ObjectPath.isNamed_iff.mp hdevice]
  dsimp only
  rw [h.device]
  cases d'.devices.get? path with
  | none => exact h.refuse _
  | some state =>
    refine ⟨rfl, rfl, h.device, ?_, h.busy⟩
    simp only [Response.served, List.filter_append, h.clients]

theorem SameAt.shutdown (h : SameAt path d d') {client : String}
    (hclient : path.isNamed client = true) :
    ((d.shutdown client).served d).SameAt path ((d'.shutdown client).served d') := by
  have hlisted : client ∈ d.clients ↔ client ∈ d'.clients := by
    have hfiltered : ∀ clients : List String,
        client ∈ clients.filter path.isNamed ↔ client ∈ clients := by
      intro clients
      simp [List.mem_filter, hclient]
    rw [← hfiltered, h.clients, hfiltered]
  unfold Daemon.shutdown
  by_cases hmem : client ∈ d.clients
  · rw [if_pos hmem, if_pos (hlisted.mp hmem)]
    refine ⟨rfl, rfl, h.device, ?_, h.busy⟩
    simp only [Response.served, ← List.erase_filter, h.clients]
  · rw [if_neg hmem, if_neg (mt hlisted.mpr hmem)]
    exact h.refuse _

/-- A method is unknown at the path of an object that does not offer it. -/
theorem serve_of_not_offered {c : MethodCall} {m : Method} (hnames : c.carried.names m = true)
    (h : ∀ object, d.objects.get? c.carried.path = some object →
      m.interface ∉ object.interfaces) :
    d.serve c = (Response.refused .unknownObject).served d := by
  rw [serve_of_badName?_eq_none (MethodCall.badName?_of_names hnames)]
  unfold answer
  rw [if_neg (MethodCall.interface_ne_peer hnames)]
  cases hobject : d.objects.get? c.carried.path with
  | none => rfl
  | some object =>
    have hfind : findMethod object c.carried = .error .unknownObject := by
      unfold findMethod
      cases hinterface : object.interfaces.find? (·.name = c.carried.interface) with
      | none => rfl
      | some i =>
        have hname : i.name = c.carried.interface := by simpa using List.find?_some hinterface
        rw [(MethodCall.names_iff.mp hnames).1] at hname
        rw [Interface.name_injective hname] at hinterface
        exact absurd (List.mem_of_find?_eq_some hinterface) (h object hobject)
    dsimp only
    rw [hfind]

/-- A call about a client of the device comes to the same on both. -/
theorem SameAt.serve_client (h : SameAt path d d') {added added' : ObjectPath → Prop}
    (hagrees : d.Agrees added) (hagrees' : d'.Agrees added') {c : MethodCall} {m : Method}
    {client : String} (hm : m = .create ∨ m = .shutdown) (habout : c.isAbout m client = true)
    (hclient : path.isNamed client = true) : (d.serve c).SameAt path (d'.serve c) := by
  obtain ⟨hnames, hargument⟩ := MethodCall.isAbout_iff.mp habout
  have hserver : m.interface = .server := by rcases hm with rfl | rfl <;> rfl
  by_cases hcontrol : c.carried.path = .control
  · have hgood := MethodCall.badName?_of_names hnames
    have hoffered : m.interface ∈ Object.control.interfaces := by rw [hserver]; decide
    have hargument' : (argument c.carried.arguments 0 : Except Mismatch String) = .ok client :=
      hargument
    rw [serve_of_badName?_eq_none hgood, serve_of_badName?_eq_none hgood,
      answer_of_names ((hagrees.control _).mpr hcontrol) hnames hoffered,
      answer_of_names ((hagrees'.control _).mpr hcontrol) hnames hoffered]
    apply h.unless_busy
    unfold Daemon.run
    rcases hm with rfl | rfl
    · rw [hargument']
      exact h.create hclient
    · rw [hargument']
      exact h.shutdown hclient
  · -- Away from the control object there is nobody to ask about clients.
    have hnone : ∀ {e : Daemon} {there : ObjectPath → Prop}, e.Agrees there → ∀ object,
        e.objects.get? c.carried.path = some object → m.interface ∉ object.interfaces := by
      intro e there he object hobject hoffered
      rw [hserver] at hoffered
      cases object <;> simp [Object.interfaces] at hoffered
      exact hcontrol ((he.control _).mp hobject)
    rw [serve_of_not_offered hnames (hnone hagrees), serve_of_not_offered hnames (hnone hagrees')]
    exact h.refuse _

/-! ## What is addressed to others -/

/-- A call that is not addressed to the device leaves its state and the clients under its names, and
emits nothing from its object. -/
theorem serve_other (d : Daemon) {c : MethodCall} (h : c.addressee? ≠ some path) :
    (d.serve c).daemon.devices.get? path = d.devices.get? path ∧
      (d.serve c).daemon.clients.filter path.isNamed = d.clients.filter path.isNamed ∧
      ∀ m ∈ (d.serve c).signals, m.path ≠ path := by
  -- Clients are changed by name and devices by path, and here neither is that of the device.
  have hunnamed : ∀ m client, m = .create ∨ m = .shutdown → c.isAbout m client = true →
      path.isNamed client = false := by
    intro m client hm habout
    by_contra hnamed
    rw [MethodCall.addressee?_of_isAbout hm habout,
      ObjectPath.isNamed_iff.mp (eq_true_of_ne_false hnamed)] at h
    exact h rfl
  have hclients : (d.serve c).daemon.clients.filter path.isNamed =
      d.clients.filter path.isNamed := by
    obtain ⟨n, _, habout, _, _, _, hmade⟩ | ⟨n, habout, _, _, hreleased⟩ | ⟨hsame, _⟩ :=
      d.clients_serve_cases c
    · have hnone := hunnamed .create n (.inl rfl) habout
      rw [hmade, List.filter_append, List.filter_cons_of_neg (by simp [hnone]), List.filter_nil,
        List.append_nil]
    · -- What is erased is not among the names of the device.
      have hnone := hunnamed .shutdown n (.inr rfl) habout
      rw [hreleased, ← List.erase_filter]
      exact List.erase_of_not_mem fun hmem => by simp [List.mem_filter, hnone] at hmem
    · rw [hsame]
  rcases d.switches_or_idle c with ⟨m, before, hswitches⟩ | ⟨hdevices, hsignals, _⟩
  · have hdevice : m.interface.isOfDevice = true := by
      have hm := hswitches.isSwitch
      cases m <;> first | rfl | cases hm
    have hc : c.carried.path ≠ path := by
      rintro rfl
      exact h (MethodCall.addressee?_of_isOfDevice hswitches.names hdevice)
    obtain ⟨hsame, hsignals⟩ := d.serve_elsewhere hc
    exact ⟨hsame, hclients, hsignals⟩
  · rw [hdevices, hsignals]
    exact ⟨rfl, hclients, List.forall_mem_nil _⟩

end Daemon

end Positioning
