import Positioning.Proofs.Daemon.Objects

/-!
# Starting and stopping

The methods that start and stop devices are the only ones that write the state of a device or emit a
signal. An answered one counts, connects or disconnects its device, and tells of the connection
where it was not so before. All other devices are left alone.

## Main definitions

- `DeviceState.switched` is the state of a device after a method of it is answered.
- `Daemon.Switches` says that a call is answered by switching the device at its path.

## Main statements

- `Daemon.switches_or_idle`: a call either switches its device, or leaves all devices and emits
  nothing.
- `Daemon.serve_elsewhere`: a call does not concern the devices at other paths.
-/

namespace Positioning

open Wire

/-- Of a path that has arrived nothing is lost another time. -/
theorem ObjectPath.carried_carried (path : ObjectPath) : path.carried.carried = path.carried := by
  simp [carried]

namespace DeviceState

/-- The state of a device after a method is answered that starts or stops it. -/
def switched (s : DeviceState) : Method → DeviceState
  | .start => { s with started := s.started + 1, connected := true }
  | .stop => { s with stopped := s.stopped + 1, connected := false }
  | _ => s

/-- How often the device was started or stopped. -/
def times (s : DeviceState) (m : Method) : Nat :=
  ((s.count? m).map UInt32.toNat).getD 0

/-- Where there is room for one more, the count is one more. -/
theorem toNat_succ_of_ne {n : UInt32} (h : n.toNat + 1 ≠ UInt32.size) :
    (n + 1).toNat = n.toNat + 1 := by
  have hlt : n.toNat + 1 < UInt32.size := by
    have := n.toNat_lt_size
    omega
  rw [UInt32.toNat_add, UInt32.toNat_one]
  exact Nat.mod_eq_of_lt hlt

theorem times_switched {s : DeviceState} {m n : Method} (hm : m.isSwitch = true)
    (hn : n.isSwitch = true) (hroom : s.isFullFor m = false) :
    (s.switched m).times n = s.times n + if n = m then 1 else 0 := by
  cases m with
  | start =>
    have hcount : s.started.toNat + 1 ≠ UInt32.size := by
      simpa [isFullFor, count?] using hroom
    cases n with
    | start => simpa [times, count?, switched] using toNat_succ_of_ne hcount
    | stop => simp [times, count?, switched]
    | _ => cases hn
  | stop =>
    have hcount : s.stopped.toNat + 1 ≠ UInt32.size := by
      simpa [isFullFor, count?] using hroom
    cases n with
    | start => simp [times, count?, switched]
    | stop => simpa [times, count?, switched] using toNat_succ_of_ne hcount
    | _ => cases hn
  | _ => cases hm

end DeviceState

namespace Daemon

/-- The call is answered by a method that starts or stops the device at its path. -/
structure Switches (d : Daemon) (c : MethodCall) (m : Method) (before : DeviceState) : Prop where
  isSwitch : m.isSwitch = true
  names : c.carried.names m = true
  device : d.devices.get? c.carried.path = some before
  room : before.isFullFor m = false
  serve : d.serve c =
    (Response.answered (d.connect c.carried.path before (before.switched m))).served d

theorem countOn?_of_ne {n : UInt32} (h : n.toNat + 1 ≠ UInt32.size) :
    countOn? n = some (n + 1) := by
  have hlt := n.toNat_lt_size
  unfold countOn?
  exact if_pos (by omega)

/-- A device that is there is switched while there is room to count it. -/
theorem run_switch {d : Daemon} {path : ObjectPath} {before : DeviceState} {m : Method}
    (hm : m.isSwitch = true) (hdevice : d.devices.get? path = some before)
    (hroom : before.isFullFor m = false) (object : Object) (arguments : List Value) :
    d.run path object arguments m = .answered (d.connect path before (before.switched m)) := by
  cases m with
  | start =>
    have hcount : before.started.toNat + 1 ≠ UInt32.size := by
      simpa [DeviceState.isFullFor, DeviceState.count?] using hroom
    simp only [run, start, deviceAt, hdevice, countOn?_of_ne hcount, DeviceState.switched]
  | stop =>
    have hcount : before.stopped.toNat + 1 ≠ UInt32.size := by
      simpa [DeviceState.isFullFor, DeviceState.count?] using hroom
    simp only [run, stop, deviceAt, hdevice, countOn?_of_ne hcount, DeviceState.switched]
  | _ => cases hm

/-- A call either switches the device at its path, or leaves all devices, emits nothing and is no
answer to a call that starts or stops a device. -/
theorem switches_or_idle (d : Daemon) (c : MethodCall) :
    (∃ m before, d.Switches c m before) ∨
      (d.serve c).daemon.devices = d.devices ∧ (d.serve c).signals = [] ∧
        ∀ m, m.isSwitch = true → c.carried.names m = true →
          ∀ values, (d.serve c).ending ≠ .ok values := by
  rcases d.serve_cases c with
    ⟨ending, hserve, hidle⟩ | ⟨object, m, r, hobject, hm, hoffered, hfree, hdoes, hserve⟩
  · rw [hserve]
    exact .inr ⟨rfl, rfl, fun m _ hnames => hidle.noAnswer m hnames⟩
  · -- A call that runs another method is no call of a switch.
    have hother : m.isSwitch = false → ∀ n, n.isSwitch = true → c.carried.names n ≠ true := by
      rintro hnot n hn hnames
      obtain rfl := MethodCall.names_unique hm hnames
      rw [hnot] at hn
      cases hn
    cases hdoes with
    | @switched _ before hswitch hdevice hroom after =>
      refine .inl ⟨m, before, hswitch, hm, hdevice, hroom, ?_⟩
      rw [serve_of_badName?_eq_none (MethodCall.badName?_of_names hm),
        answer_of_names hobject hm hoffered, if_neg hfree, run_switch hswitch hdevice hroom]
    | told hquery _ =>
      have hnot : m.isSwitch = false := by cases m <;> first | rfl | cases hquery
      rw [hserve]
      exact .inr ⟨rfl, rfl, fun n hn hnames => absurd hnames (hother hnot n hn)⟩
    | scanned hscan _ =>
      have hnot : m.isSwitch = false := by rcases hscan with rfl | rfl <;> rfl
      rw [hserve]
      exact .inr ⟨rfl, rfl, fun n hn hnames => absurd hnames (hother hnot n hn)⟩
    | created _ _ _ =>
      rw [hserve]
      exact .inr ⟨rfl, rfl, fun n hn hnames => absurd hnames (hother rfl n hn)⟩
    | released _ _ =>
      rw [hserve]
      exact .inr ⟨rfl, rfl, fun n hn hnames => absurd hnames (hother rfl n hn)⟩
    | _ =>
      rw [hserve]
      exact .inr ⟨rfl, rfl, fun _ _ _ _ h => nomatch h⟩

/-- A call leaves all devices but the one at its path, and emits nothing from elsewhere. -/
theorem serve_elsewhere (d : Daemon) {c : MethodCall} {path : ObjectPath}
    (h : c.carried.path ≠ path) :
    (d.serve c).daemon.devices.get? path = d.devices.get? path ∧
      ∀ m ∈ (d.serve c).signals, m.path ≠ path := by
  rcases d.switches_or_idle c with ⟨m, before, hswitches⟩ | ⟨hdevices, hsignals, _⟩
  · rw [hswitches.serve]
    constructor
    · simp only [Response.served, connect, Table.get?_put, if_neg h]
    · intro message hmessage
      have harrived : message.path = c.carried.path.carried := by
        simp only [Response.served, connect] at hmessage
        split at hmessage
        · cases hmessage
        · rw [List.mem_singleton.mp hmessage]
          rfl
      rw [harrived, MethodCall.carried, ObjectPath.carried_carried]
      exact h
  · rw [hdevices, hsignals]
    exact ⟨rfl, List.forall_mem_nil _⟩

end Daemon

end Positioning
