import Positioning.Proofs.Bus.Clients
import Positioning.Proofs.Daemon.Objects

/-!
# The registry of clients

The daemon lists its clients by the names under which they were made. The list keeps the balance of
what was answered: a name stands in it as often as it was made, less as often as it was released. A
client is made for a device by the path of its object, under whatever name the device was added; it
is released by its name alone. So the clients of one device under different names are kept apart.

## Main definitions

- `MethodCall.isAbout` says that a call is one of a method about a client.
- `Moment.answers` says that an operation is such a call, and is answered.

## Main statements

- `Daemon.clients_serve_cases`: what a call does to the list.
- `LocalBus.count_after`: the balance, over every run.
- `LocalBus.clients_balance`: all that holds of the list after every run.
-/

namespace Positioning

open Wire

variable {ω : Type}

/-! ## Calls about clients -/

namespace MethodCall

/-- The call arrives as one of the method about the client with a name. -/
def isAbout (c : MethodCall) (m : Method) (client : String) : Bool :=
  c.carried.names m &&
    match (argument c.arguments 0 : Except Mismatch String) with
    | .ok name => name = client
    | .error _ => false

theorem isAbout_iff {c : MethodCall} {m : Method} {client : String} :
    c.isAbout m client = true ↔
      c.carried.names m = true ∧ argument c.arguments 0 = .ok client := by
  unfold isAbout
  cases (argument c.arguments 0 : Except Mismatch String) <;> simp

/-- A call is one of one method about one client at most. -/
theorem isAbout_iff_of_isAbout {c : MethodCall} {m m' : Method} {n n' : String}
    (h : c.isAbout m n = true) : c.isAbout m' n' = true ↔ m' = m ∧ n' = n := by
  constructor
  · intro h'
    obtain ⟨hnames, hargument⟩ := isAbout_iff.mp h
    obtain ⟨hnames', hargument'⟩ := isAbout_iff.mp h'
    exact ⟨names_unique hnames' hnames, Except.ok.inj (hargument'.symm.trans hargument)⟩
  · rintro ⟨rfl, rfl⟩
    exact h

/-- A call under the names of a method is about the client that it names as it is carried. -/
theorem isAbout_callAt (m : Method) (path : ObjectPath) (device : String) :
    (m.callAt path [Argument.toValue device]).isAbout m (Wire.carried device) = true :=
  isAbout_iff.mpr ⟨m.names_callAt path _, rfl⟩

end MethodCall

namespace Daemon

/-- A call either puts a client of a known device behind the others, or removes the oldest client
with a name, or leaves the list as it is; the last is no answer to a call about clients. -/
theorem clients_serve_cases (d : Daemon) (c : MethodCall) :
    (∃ n path, c.isAbout .create n = true ∧ ObjectPath.ofDevice n = .ok path ∧
      d.HasDevice path ∧ (d.serve c).ending = .ok [.objectPath path] ∧
      (d.serve c).daemon.clients = d.clients ++ [n]) ∨
    (∃ n, c.isAbout .shutdown n = true ∧ n ∈ d.clients ∧ (d.serve c).ending = .ok [] ∧
      (d.serve c).daemon.clients = d.clients.erase n) ∨
    (d.serve c).daemon.clients = d.clients ∧
      ∀ m, m = .create ∨ m = .shutdown → c.carried.names m = true →
        ∀ values, (d.serve c).ending ≠ .ok values := by
  rcases d.serve_cases c with
    ⟨ending, hserve, hidle⟩ | ⟨object, m, r, _, hm, _, _, hdoes, hserve⟩
  · rw [hserve]
    exact .inr (.inr ⟨rfl, fun m _ hnames => hidle.noAnswer m hnames⟩)
  · -- No other method touches the list, or is one of the two by another name.
    have hother : m.isQuery = true ∨ m.isSwitch = true ∨ m = .startScanning ∨
        m = .stopScanning → ∀ n, n = .create ∨ n = .shutdown → c.carried.names n ≠ true := by
      rintro hm' n hn hnames
      obtain rfl := MethodCall.names_unique hm hnames
      rcases hn with rfl | rfl <;> simp [Method.isQuery, Method.isSwitch] at hm'
    rw [hserve]
    cases hdoes with
    | created hargument hpath hdevice =>
      exact .inl ⟨_, _, MethodCall.isAbout_iff.mpr ⟨hm, hargument⟩, hpath, hdevice, rfl, rfl⟩
    | released hargument hclient =>
      exact .inr (.inl ⟨_, MethodCall.isAbout_iff.mpr ⟨hm, hargument⟩, hclient, rfl, rfl⟩)
    | told hquery _ =>
      exact .inr (.inr ⟨rfl, fun n hn hnames => absurd hnames (hother (.inl hquery) n hn)⟩)
    | scanned hscan _ =>
      exact .inr (.inr ⟨rfl, fun n hn hnames =>
        absurd hnames (hother (.inr (.inr hscan)) n hn)⟩)
    | switched hswitch _ _ _ =>
      exact .inr (.inr ⟨rfl, fun n hn hnames =>
        absurd hnames (hother (.inr (.inl hswitch)) n hn)⟩)
    | _ => exact .inr (.inr ⟨rfl, fun _ _ _ _ h => nomatch h⟩)

end Daemon

/-! ## The balance -/

/-- The operation is a call of the method about the client, and is answered. -/
def Moment.answers (m : Method) (client : String) (i : Moment ω) : Bool :=
  match i.operation, i.outcome.result with
  | .call c, .ok _ => c.isAbout m client
  | _, _ => false

theorem Moment.answers_call_iff {b : LocalBus ω} {c : MethodCall} {m : Method} {client : String} :
    Moment.answers m client ⟨b, .call c⟩ = true ↔
      c.isAbout m client = true ∧ ∃ values, (b.daemon.serve c).ending = .ok values := by
  unfold answers
  rw [result_call]
  cases (b.daemon.serve c).ending <;> simp

/-- An answered call about a client counts for its method and its client, and for no others. -/
theorem Moment.answers_call_iff_of_ok {b : LocalBus ω} {c : MethodCall} {m : Method}
    {client : String} {values : List Value} (habout : c.isAbout m client = true)
    (hending : (b.daemon.serve c).ending = .ok values) (m' : Method) (client' : String) :
    Moment.answers m' client' ⟨b, .call c⟩ = true ↔ m' = m ∧ client' = client := by
  rw [answers_call_iff, MethodCall.isAbout_iff_of_isAbout habout, hending]
  simp

namespace LocalBus

/-- Operations that are no calls leave the list of clients as it is. -/
theorem clients_next_of_not_call {o : Operation ω} (h : ∀ c, o ≠ .call c) (b : LocalBus ω) :
    (o.next b).daemon.clients = b.daemon.clients := by
  rw [daemon_next]
  cases o with
  | call c => exact absurd rfl (h c)
  | addDevice device =>
    rw [Operation.daemonAfter]
    cases ObjectPath.ofDevice device <;> rfl
  | updateDevice device f =>
    rw [Operation.daemonAfter]
    cases hupdate : b.daemon.updateDevice device f with
    | error e => rfl
    | ok d' =>
      obtain ⟨path, before, _, rfl⟩ := Daemon.exists_of_updateDevice hupdate
      rfl
  | _ => rfl

theorem count_next (o : Operation ω) (b : LocalBus ω) (n : String) :
    (o.next b).daemon.clients.count n + [⟨b, o⟩].countP (Moment.answers .shutdown n) =
      b.daemon.clients.count n + [⟨b, o⟩].countP (Moment.answers .create n) := by
  by_cases hcall : ∃ c, o = .call c
  · obtain ⟨c, rfl⟩ := hcall
    rw [List.countP_singleton, List.countP_singleton]
    rw [daemon_next, Operation.daemonAfter]
    obtain ⟨name, path, habout, _, _, hending, hclients⟩ |
      ⟨name, habout, hmem, hending, hclients⟩ | ⟨hclients, hquiet⟩ :=
      b.daemon.clients_serve_cases c
    · have hanswers := fun m => Moment.answers_call_iff_of_ok habout hending m n
      have hrelease := mt (hanswers .shutdown).mp (by simp)
      rw [hclients, List.count_append, List.count_singleton, if_neg hrelease, Nat.add_zero]
      by_cases hname : n = name
      · rw [if_pos ((hanswers .create).mpr ⟨rfl, hname⟩), if_pos (by simp [hname])]
      · have hmake := mt (hanswers .create).mp (by simp [hname])
        rw [if_neg hmake, if_neg (by simpa using Ne.symm hname)]
    · have hanswers := fun m => Moment.answers_call_iff_of_ok habout hending m n
      have hmake := mt (hanswers .create).mp (by simp)
      rw [hclients, if_neg hmake, Nat.add_zero]
      by_cases hname : n = name
      · -- One of the name is there to be erased, so the subtraction is exact.
        have hpos := List.count_pos_iff.mpr hmem
        rw [if_pos ((hanswers .shutdown).mpr ⟨rfl, hname⟩), hname, List.count_erase_self]
        omega
      · have hrelease := mt (hanswers .shutdown).mp (by simp [hname])
        rw [if_neg hrelease, List.count_erase_of_ne hname, Nat.add_zero]
    · have hanswers : ∀ m, m = .create ∨ m = .shutdown →
          ¬ Moment.answers m n ⟨b, .call c⟩ = true := by
        intro m hm hanswers
        obtain ⟨habout, values, hending⟩ := Moment.answers_call_iff.mp hanswers
        exact hquiet m hm (MethodCall.isAbout_iff.mp habout).1 values hending
      rw [hclients, if_neg (hanswers .create (.inl rfl)), if_neg (hanswers .shutdown (.inr rfl))]
  · have hnone : ∀ m, Moment.answers m n ⟨b, o⟩ = false := by
      intro m
      cases o <;> first | rfl | exact absurd ⟨_, rfl⟩ hcall
    rw [clients_next_of_not_call (fun c hc => hcall ⟨c, hc⟩) b]
    simp [hnone]

/-- A run keeps the balance of every name. -/
theorem count_after (ops : List (Operation ω)) (b : LocalBus ω) (n : String) :
    (b.after ops).daemon.clients.count n + (moments b ops).countP (Moment.answers .shutdown n) =
      b.daemon.clients.count n + (moments b ops).countP (Moment.answers .create n) := by
  induction ops generalizing b with
  | nil => rfl
  | cons o ops ih =>
    have hfirst := count_next o b n
    have hrest := ih (o.next b)
    have hsplit : moments b (o :: ops) = [⟨b, o⟩] ++ moments (o.next b) ops := rfl
    rw [after, hsplit, List.countP_append, List.countP_append]
    omega

/-- Whoever is listed was made a client of a device that was added. -/
theorem exists_adds_of_mem_clients {ops : List (Operation ω)} {n : String}
    (h : n ∈ (LocalBus.initial.after ops).daemon.clients) :
    ∃ path, ObjectPath.ofDevice n = .ok path ∧ Operation.adds ops path := by
  -- By the balance, a name that is listed was made some time.
  have hbalance := count_after ops .initial n
  have hlisted := List.count_pos_iff.mpr h
  have hmade : 0 < (moments .initial ops).countP (Moment.answers .create n) := by
    have hnone : (LocalBus.initial : LocalBus ω).daemon.clients.count n = 0 := rfl
    omega
  obtain ⟨i, hi, hanswers⟩ := List.countP_pos_iff.mp hmade
  obtain ⟨before, later, hops, hbus⟩ := exists_of_mem_moments hi
  obtain ⟨b, o⟩ := i
  obtain rfl : b = LocalBus.initial.after before := hbus
  cases o with
  | call c =>
    obtain ⟨habout, values, hending⟩ := Moment.answers_call_iff.mp hanswers
    obtain ⟨name, path, habout', hpath, hdevice, _, _⟩ | ⟨name, habout', _⟩ | ⟨_, hquiet⟩ :=
      (LocalBus.initial.after before).daemon.clients_serve_cases c
    · obtain ⟨_, rfl⟩ := (MethodCall.isAbout_iff_of_isAbout habout').mp habout
      refine ⟨path, hpath, ?_⟩
      rw [hops, Operation.adds_append]
      exact .inl (((agrees_after before).opens path).mp hdevice)
    · have hsame := ((MethodCall.isAbout_iff_of_isAbout habout').mp habout).1
      cases hsame
    · exact absurd hending (hquiet .create (.inl rfl) (MethodCall.isAbout_iff.mp habout).1 values)
  | _ => cases hanswers

end LocalBus

/-! ## Making and releasing -/

/-- Making a client is answered exactly for a device that was added, and with its path. -/
theorem Daemon.Agrees.ending_create_iff {d : Daemon} {added : ObjectPath → Prop}
    (h : d.Agrees added) (hbusy : .create ∉ d.busy) {c : MethodCall} {client : String}
    (hpath : c.carried.path = .control) (habout : c.isAbout .create client = true)
    (values : List Value) :
    (d.serve c).ending = .ok values ↔
      ∃ path, values = [.objectPath path] ∧ ObjectPath.ofDevice client = .ok path ∧
        added path := by
  obtain ⟨hnames, hargument⟩ := MethodCall.isAbout_iff.mp habout
  obtain ⟨path, hdevice, hadded, hserve⟩ | ⟨hnone, f, hserve⟩ :=
    h.serve_create hbusy hpath hnames hargument
  · rw [hserve]
    constructor
    · intro hending
      exact ⟨path, (Ending.ok.inj hending).symm, hdevice, hadded⟩
    · rintro ⟨path', rfl, hdevice', _⟩
      rw [Except.ok.inj (hdevice.symm.trans hdevice')]
  · rw [hserve]
    constructor
    · intro hending
      cases hending
    · rintro ⟨path, _, hdevice, hadded⟩
      exact absurd hadded (hnone path hdevice)

/-- A program that makes a client is given the path under the same condition. -/
theorem Daemon.Agrees.create_iff {d : Daemon} {added : ObjectPath → Prop} (h : d.Agrees added)
    (hbusy : .create ∉ d.busy) (device : String) (path : ObjectPath) :
    LocalBus.reading (Reply.one ObjectPath) (d.serve (LocalBus.createCall device)).ending =
        .ok path ↔
      ObjectPath.ofDevice (Wire.carried device) = .ok path ∧ added path := by
  obtain ⟨path', hdevice, hadded, hserve⟩ | ⟨hnone, f, hserve⟩ :=
    h.serve_create hbusy (c := LocalBus.createCall device) ObjectPath.carried_control
      (Method.names_callAt .create _ _) rfl
  · have hread : LocalBus.reading (Reply.one ObjectPath) (.ok [.objectPath path']) = .ok path' :=
      rfl
    rw [hserve, hread, hdevice]
    constructor
    · intro hpath
      rw [← Ending.ok.inj hpath]
      exact ⟨rfl, hadded⟩
    · rintro ⟨hpath, _⟩
      rw [Except.ok.inj hpath]
  · rw [hserve]
    constructor
    · intro hread
      cases hread
    · rintro ⟨hdevice, hadded⟩
      exact absurd hadded (hnone path hdevice)

/-- A client is released exactly if its name is listed, and then the oldest of its name goes. -/
theorem Daemon.Agrees.serve_shutdown {d : Daemon} {added : ObjectPath → Prop} (h : d.Agrees added)
    (hbusy : .shutdown ∉ d.busy) {c : MethodCall} {client : String}
    (hpath : c.carried.path = .control) (habout : c.isAbout .shutdown client = true) :
    (client ∈ d.clients ∧
      d.serve c = ⟨.ok [], [], { d with clients := d.clients.erase client }⟩) ∨
    client ∉ d.clients ∧ d.serve c = ⟨.error (.fault (.noSuchClient client)), [], d⟩ := by
  obtain ⟨hnames, hargument⟩ := MethodCall.isAbout_iff.mp habout
  have hobject := (h.control _).mpr hpath
  rw [serve_of_badName?_eq_none (MethodCall.badName?_of_names hnames),
    answer_of_names hobject hnames (by decide), if_neg hbusy]
  have hrun : d.run c.carried.path .control c.carried.arguments .shutdown = d.shutdown client := by
    unfold run
    have hargument' : (argument c.carried.arguments 0 : Except Mismatch String) = .ok client :=
      hargument
    rw [hargument']
  rw [hrun, shutdown]
  split
  · next hmem => exact .inl ⟨hmem, rfl⟩
  · next hmem => exact .inr ⟨hmem, rfl⟩

namespace LocalBus

/-- **Balance of clients.** After every run a name is listed as often as it was made, less as often
as it was released. A client of a name is made exactly for a device that was added, under whatever
name, and the path of its object is given. It is released exactly if the name is listed; then the
oldest of the name goes, and the others stay in their order. Whoever is listed has a device. What is
no call leaves the list alone, and no name is released under another. Programs that ask through a
client find the same. -/
theorem clients_balance (ops : List (Operation ω)) (n : String) :
    let b := LocalBus.initial.after ops
    let d := b.daemon
    d.clients.count n + (moments .initial ops).countP (Moment.answers .shutdown n) =
      (moments .initial ops).countP (Moment.answers .create n) ∧
    (∀ c, c.carried.path = .control → c.isAbout .create n = true →
      ∀ values, (d.serve c).ending = .ok values ↔
        ∃ path, values = [.objectPath path] ∧ ObjectPath.ofDevice n = .ok path ∧
          Operation.adds ops path) ∧
    (∀ c, c.carried.path = .control → c.isAbout .shutdown n = true →
      ((∃ values, (d.serve c).ending = .ok values) ↔ n ∈ d.clients) ∧
      (∀ front back, d.clients = front ++ n :: back → n ∉ front →
        (d.serve c).daemon.clients = front ++ back)) ∧
    (n ∈ d.clients → ∃ path, ObjectPath.ofDevice n = .ok path ∧ path ∈ d.devices.keys) ∧
    (∀ o : Operation ω, (∀ c, o ≠ .call c) → (o.next b).daemon.clients = d.clients) ∧
    (∀ c other, c.isAbout .shutdown other = true → other ≠ n →
      (d.serve c).daemon.clients.count n = d.clients.count n) ∧
    (∀ device path, ((Client.create bus device).run b).result = .ok path ↔
      ObjectPath.ofDevice (Wire.carried device) = .ok path ∧ Operation.adds ops path) ∧
    ∀ device, ((Client.shutdown bus device).run b).result = .ok () ↔
      Wire.carried device ∈ d.clients := by
  intro b d
  have hagrees : d.Agrees (Operation.adds ops) := agrees_after ops
  have hfree : ∀ m : Method, m.isSwitch = false → m ∉ d.busy := by
    intro m hm hmem
    simp [((mem_busy_iff ops m).mp hmem).1] at hm
  have hcreate := hfree .create rfl
  have hshutdown := hfree .shutdown rfl
  refine ⟨?_, fun c hpath habout => hagrees.ending_create_iff hcreate hpath habout,
    fun c hpath habout => ?_, fun hmem => ?_, fun o ho => clients_next_of_not_call ho b,
    fun c other habout hne => ?_, fun device path => ?_, fun device => ?_⟩
  · have hbalance := count_after ops .initial n
    have hnone : (LocalBus.initial : LocalBus ω).daemon.clients.count n = 0 := rfl
    rw [hnone, Nat.zero_add] at hbalance
    exact hbalance
  · obtain ⟨hmem, hserve⟩ | ⟨hmem, hserve⟩ := hagrees.serve_shutdown hshutdown hpath habout
    · rw [hserve]
      refine ⟨by simp [hmem], fun front back hclients hfront => ?_⟩
      rw [hclients]
      simp [List.erase_append_right _ hfront]
    · rw [hserve]
      refine ⟨by simp [hmem], fun front back hclients _ => ?_⟩
      exact absurd (hclients ▸ by simp) hmem
  · obtain ⟨path, hdevice, hadded⟩ := exists_adds_of_mem_clients hmem
    exact ⟨path, hdevice, (Table.mem_keys_iff _ _).mpr ((hagrees.opens path).mpr hadded)⟩
  · obtain ⟨name, path, habout', _⟩ | ⟨name, habout', _, _, hclients⟩ | ⟨hclients, _⟩ :=
      d.clients_serve_cases c
    · have hsame := ((MethodCall.isAbout_iff_of_isAbout habout').mp habout).1
      cases hsame
    · obtain ⟨_, rfl⟩ := (MethodCall.isAbout_iff_of_isAbout habout').mp habout
      rw [hclients, List.count_erase_of_ne (Ne.symm hne)]
    · rw [hclients]
  · rw [(run_create device b).1]
    exact hagrees.create_iff hcreate device path
  · rw [(run_shutdown device b).1]
    obtain ⟨hmem, hserve⟩ | ⟨hmem, hserve⟩ := hagrees.serve_shutdown hshutdown
      (c := shutdownCall device) ObjectPath.carried_control
      (MethodCall.isAbout_callAt .shutdown _ device)
    · rw [hserve]
      exact ⟨fun _ => hmem, fun _ => rfl⟩
    · rw [hserve]
      exact ⟨fun hread => (nomatch hread), fun hmem' => absurd hmem' hmem⟩

/-- Clients of one device under two names, one of which is made twice and released once. -/
def aliased : List (Operation String) :=
  [.addDevice "/dev/gps", .call (createCall "gps"), .call (createCall "/dev/gps"),
    .call (createCall "gps"), .call (shutdownCall "gps")]

/-- The oldest client goes, the one under the other name stays, and a third name of the device
releases none of them. -/
theorem clients_balance_aliased :
    let b := LocalBus.initial.after aliased
    b.daemon.clients = ["/dev/gps", "gps"] ∧
      1 + (moments .initial aliased).countP (Moment.answers .shutdown "gps") =
        (moments .initial aliased).countP (Moment.answers .create "gps") ∧
      ((Client.shutdown bus "/tmp/gps").run b).result ≠ .ok () := by
  intro b
  have hclients : b.daemon.clients = ["/dev/gps", "gps"] := by decide +kernel
  obtain ⟨hbalance, _, _, _, _, _, _, hreleased⟩ := clients_balance aliased "gps"
  refine ⟨hclients, ?_, fun hresult => ?_⟩
  · have hcount : b.daemon.clients.count "gps" = 1 := by rw [hclients]; decide
    rw [← hcount]
    exact hbalance
  · have hmem := (hreleased "/tmp/gps").mp hresult
    rw [hclients] at hmem
    exact absurd hmem (by decide)

end LocalBus

end Positioning
