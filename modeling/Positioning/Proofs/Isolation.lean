import Positioning.Proofs.Bus.Tokens
import Positioning.Proofs.Daemon.DeviceView

/-!
# Devices do not interfere

The devices share a queue, a list of clients and the methods of the daemon. Still what is asked of
one of them gives the same results, leaves the same state and reaches the same listeners whether or
not anything is asked of the others, and in whatever order; messages may be handed on at other
times. The one thing that a device cannot keep from the others is a crash: the method is busy for
all of them from then on.

Two runs are compared by way of a third, which holds what is addressed to the device and nothing
else. One step of either run is a step of the third, or none.

## Main definitions

- `Operation.addressee?` is the device that an operation is addressed to.
- `LocalBus.QuietBut` says that nothing crashes in a run but what is addressed to the device.
- `LocalBus.SameRun` says that two runs are the same for the daemon of the device, and
  `LocalBus.AlikeAt` that they are for whoever asks or listens.

## Main statements

- `LocalBus.sameAt_next_of_not_isTo` and `LocalBus.SameStep.of_isTo`: one step.
- `LocalBus.SameRun.purge`: a run is the same as what it addresses to the device.
- `LocalBus.devices_isolated`: what is addressed to others may be left out, or come in any order.
-/

namespace Positioning

open Wire

variable {ω : Type}

namespace Operation

/-- The device that an operation is addressed to, by its path or by one of its names. -/
def addressee? : Operation ω → Option ObjectPath
  | addDevice device => (ObjectPath.ofDevice device).toOption
  | updateDevice device _ => (ObjectPath.ofDevice device).toOption
  | emitFor device _ _ => (ObjectPath.ofDevice device).toOption
  | emit m => some m.path
  | call c => c.addressee?
  | _ => none

def isTo (path : ObjectPath) (o : Operation ω) : Bool :=
  o.addressee? = some path

/-- Whether an operation hands on what waits. -/
def handsOn : Operation ω → Bool
  | process => true
  | drain => true
  | _ => false

/-- Whether an operation stays where those addressed to other devices are left out. -/
def stays (path : ObjectPath) (o : Operation ω) : Bool :=
  o.isTo path || o.handsOn

/-- Whether an operation has to do with messages and devices: no subscription, and no introspection,
which tells of all objects. -/
def isPlain : Operation ω → Bool
  | call c => !c.carried.names .introspect
  | o => o.isTraffic

theorem isTraffic_of_isPlain {o : Operation ω} (h : o.isPlain = true) : o.isTraffic = true := by
  cases o with
  | call c => rfl
  | _ => exact h

end Operation

namespace LocalBus

/-! ## One step -/

variable {b b' : LocalBus ω} {o : Operation ω} {path : ObjectPath}

/-- What is not addressed to a device leaves the daemon the same for it, unless it crashes, and
queues no message from it. -/
theorem sameAt_next_of_not_isTo (ho : o.isTo path = false)
    (hquiet : ∀ m, ¬ Moment.crashes ⟨b, o⟩ m) :
    (o.next b).daemon.SameAt path b.daemon ∧ ∀ m ∈ Moment.queued ⟨b, o⟩, m.path ≠ path := by
  have hother : o.addressee? ≠ some path := of_decide_eq_false ho
  have hbusy : ∀ m, m ∈ (o.next b).daemon.busy ↔ m ∈ b.daemon.busy := by
    intro m
    rw [mem_busy_next_iff]
    exact or_iff_left fun h => hquiet m h.2
  have hdaemon : (o.next b).daemon = o.daemonAfter b.daemon := daemon_next o b
  cases o with
  | addDevice device =>
    have hne : ObjectPath.ofDevice device ≠ .ok path :=
      mt ObjectPath.toOption_ofDevice_eq_some_iff.mpr hother
    refine ⟨⟨?_, ?_, hbusy⟩, List.forall_mem_nil _⟩
    · rw [hdaemon, Operation.get?_daemonAfter_addDevice_of_ne hne]
    · rw [clients_next_of_not_call (by simp)]
  | updateDevice device f =>
    have hne : ObjectPath.ofDevice device ≠ .ok path :=
      mt ObjectPath.toOption_ofDevice_eq_some_iff.mpr hother
    refine ⟨⟨?_, ?_, hbusy⟩, List.forall_mem_nil _⟩
    · rw [hdaemon, Operation.get?_daemonAfter_updateDevice_of_ne hne]
    · rw [clients_next_of_not_call (by simp)]
  | call c =>
    obtain ⟨hdevice, hclients, hsignals⟩ := b.daemon.serve_other hother
    refine ⟨⟨?_, ?_, hbusy⟩, hsignals⟩
    · rw [hdaemon]
      exact hdevice
    · rw [hdaemon]
      exact hclients
  | emit m =>
    refine ⟨hdaemon ▸ .refl path _, fun message hm => ?_⟩
    rw [List.mem_singleton.mp hm]
    exact fun hsame => hother (congrArg some hsame)
  | emitFor device kind payload =>
    refine ⟨hdaemon ▸ .refl path _, fun message hm => ?_⟩
    obtain ⟨other, hdevice, rfl⟩ := Moment.mem_queued_emitFor_iff.mp hm
    have harrives : (kind.message other payload).path = other :=
      ObjectPath.carried_of_ofDevice hdevice
    rw [harrives]
    rintro rfl
    exact hother (ObjectPath.toOption_ofDevice_eq_some_iff.mpr hdevice)
  | setKnown known => exact ⟨⟨rfl, rfl, hbusy⟩, List.forall_mem_nil _⟩
  | _ => exact ⟨hdaemon ▸ .refl path _, List.forall_mem_nil _⟩

/-- An operation gives the same and queues the same on two buses, which are left the same for the
device. -/
structure SameStep (path : ObjectPath) (b b' : LocalBus ω) (o : Operation ω) : Prop where
  daemon : (o.next b).daemon.SameAt path (o.next b').daemon
  result : (Moment.outcome ⟨b, o⟩).result = (Moment.outcome ⟨b', o⟩).result
  queued : Moment.queued ⟨b, o⟩ = Moment.queued ⟨b', o⟩

/-- A call addressed to a device that is there comes to the same. -/
theorem serve_sameAt (h : b.daemon.SameAt path b'.daemon) (hb : b.Reachable) (hb' : b'.Reachable)
    (hdevice : b.daemon.HasDevice path) {c : MethodCall} (hc : c.addressee? = some path)
    (hintrospect : c.carried.names .introspect = false) :
    (b.daemon.serve c).SameAt path (b'.daemon.serve c) := by
  rcases MethodCall.isAbout_or_path_of_addressee? hc with ⟨m, client, hm, habout, hclient⟩ | hpath
  · exact h.serve_client hb.agrees hb'.agrees hm habout hclient
  · have hdevice' : b'.daemon.HasDevice path := by
      rw [Daemon.HasDevice, ← h.device]
      exact hdevice
    exact h.serve_path hpath ((hb.agrees.device path).mpr hdevice)
      ((hb'.agrees.device path).mpr hdevice') hintrospect

theorem SameStep.of_isTo (h : b.daemon.SameAt path b'.daemon) (hb : b.Reachable)
    (hb' : b'.Reachable) (hdevice : b.daemon.HasDevice path) (ho : o.isTo path = true)
    (hplain : o.isPlain = true) : SameStep path b b' o := by
  have haddressee : o.addressee? = some path := of_decide_eq_true ho
  have hdaemon := fun bus : LocalBus ω => daemon_next o bus
  cases o with
  | addDevice device =>
    have hname := ObjectPath.toOption_ofDevice_eq_some_iff.mp haddressee
    have hnext : ∀ bus : LocalBus ω, ((Operation.addDevice device).next bus).daemon =
        bus.daemon.addDeviceAt path := by
      intro bus
      rw [next_addDevice, hname]
    refine ⟨⟨?_, ?_, ?_⟩, ?_, rfl⟩
    · rw [hdaemon, hdaemon, Operation.get?_daemonAfter_addDevice hname,
        Operation.get?_daemonAfter_addDevice hname]
    · rw [hnext, hnext]
      exact h.clients
    · rw [hnext, hnext]
      exact h.busy
    · simp only [Moment.outcome, Operation.perform, Operation.ofChange, addDevice,
        Daemon.addDevice, hname]
      rfl
  | updateDevice device f =>
    have hname := ObjectPath.toOption_ofDevice_eq_some_iff.mp haddressee
    obtain ⟨state, hstate⟩ := Option.isSome_iff_exists.mp hdevice
    have hupdate : ∀ bus : LocalBus ω, bus.daemon.devices.get? path = some state →
        bus.daemon.updateDevice device f =
          .ok { bus.daemon with devices := bus.daemon.devices.put path (f state) } := by
      intro bus hbus
      simp only [Daemon.updateDevice, hname, hbus]
    have hupdated := hupdate b hstate
    have hupdated' := hupdate b' (h.device ▸ hstate)
    refine ⟨⟨?_, ?_, ?_⟩, ?_, rfl⟩
    · rw [hdaemon, hdaemon, Operation.get?_daemonAfter_updateDevice hname,
        Operation.get?_daemonAfter_updateDevice hname, h.device]
    · rw [next_updateDevice, next_updateDevice, hupdated, hupdated']
      exact h.clients
    · rw [next_updateDevice, next_updateDevice, hupdated, hupdated']
      exact h.busy
    · simp only [Moment.outcome, Operation.perform, Operation.ofChange, updateDevice, hupdated,
        hupdated']
      rfl
  | emit m => exact ⟨h, rfl, rfl⟩
  | emitFor device kind payload =>
    refine ⟨?_, ?_, rfl⟩
    · rw [hdaemon, hdaemon]
      exact h
    · simp only [Moment.outcome, Operation.perform, Operation.ofChange, emitFor]
      cases ObjectPath.ofDevice device <;> rfl
  | call c =>
    have hintrospect : c.carried.names .introspect = false := by
      simpa [Operation.isPlain] using hplain
    have hserve := serve_sameAt h hb hb' hdevice haddressee hintrospect
    refine ⟨?_, ?_, hserve.signals⟩
    · rw [hdaemon, hdaemon]
      exact hserve.daemon
    · rw [Moment.result_call, Moment.result_call, hserve.ending]
  | _ => cases haddressee

/-! ## Runs -/

/-- Nothing crashes on a full counter in a run but what is addressed to the device. -/
def QuietBut (path : ObjectPath) (b : LocalBus ω) (ops : List (Operation ω)) : Prop :=
  ∀ i ∈ moments b ops, ∀ m, i.crashes m → i.operation.isTo path = true

/-- What the operations give that are addressed to the device, in order. -/
def resultsAt (path : ObjectPath) (b : LocalBus ω) (ops : List (Operation ω)) :
    List (Ending Operation.Failure Operation.Result) :=
  ((moments b ops).filter fun i => i.operation.isTo path).map fun i => i.outcome.result

/-- What is queued from the object of the device, in order. -/
def queuedAt (path : ObjectPath) (b : LocalBus ω) (ops : List (Operation ω)) : List Message :=
  ((moments b ops).flatMap Moment.queued).filter fun m => m.path = path

/-- Two runs give and queue the same for a device, and leave the daemon the same for it. -/
structure SameRun (path : ObjectPath) (b b' : LocalBus ω) (ops ops' : List (Operation ω)) :
    Prop where
  daemon : (b.after ops).daemon.SameAt path (b'.after ops').daemon
  results : resultsAt path b ops = resultsAt path b' ops'
  queued : queuedAt path b ops = queuedAt path b' ops'

theorem SameRun.symm {ops ops' : List (Operation ω)} (h : SameRun path b b' ops ops') :
    SameRun path b' b ops' ops :=
  ⟨h.daemon.symm, h.results.symm, h.queued.symm⟩

theorem SameRun.trans {b'' : LocalBus ω} {ops ops' ops'' : List (Operation ω)}
    (h : SameRun path b b' ops ops') (h' : SameRun path b' b'' ops' ops'') :
    SameRun path b b'' ops ops'' :=
  ⟨h.daemon.trans h'.daemon, h.results.trans h'.results, h.queued.trans h'.queued⟩

theorem resultsAt_cons_of_isTo (ho : o.isTo path = true) (ops : List (Operation ω)) :
    resultsAt path b (o :: ops) =
      (Moment.outcome ⟨b, o⟩).result :: resultsAt path (o.next b) ops := by
  simp [resultsAt, moments, ho]

theorem resultsAt_cons_of_not_isTo (ho : ¬ o.isTo path = true) (ops : List (Operation ω)) :
    resultsAt path b (o :: ops) = resultsAt path (o.next b) ops := by
  simp [resultsAt, moments, ho]

theorem queuedAt_cons (ops : List (Operation ω)) :
    queuedAt path b (o :: ops) =
      (Moment.queued ⟨b, o⟩).filter (fun m => m.path = path) ++ queuedAt path (o.next b) ops := by
  simp only [queuedAt, moments, List.flatMap_cons, List.filter_append]

/-- A device that is there stays there. -/
theorem Reachable.hasDevice_next (hb : b.Reachable) (hdevice : b.daemon.HasDevice path)
    (o : Operation ω) : (o.next b).daemon.HasDevice path :=
  ((agrees_next hb.agrees o).opens path).mpr (.inl hdevice)

/-- A run is the same for a device as what it addresses to the device. -/
theorem SameRun.purge {ops : List (Operation ω)} (h : b.daemon.SameAt path b'.daemon)
    (hb : b.Reachable) (hb' : b'.Reachable) (hdevice : b.daemon.HasDevice path)
    (hplain : ∀ o ∈ ops, o.isPlain = true) (hquiet : QuietBut path b ops) :
    SameRun path b b' ops (ops.filter (Operation.isTo path)) := by
  induction ops generalizing b b' with
  | nil => exact ⟨h, rfl, rfl⟩
  | cons o ops ih =>
    have hrestPlain : ∀ x ∈ ops, x.isPlain = true := fun x hx =>
      hplain x (List.mem_cons_of_mem _ hx)
    have hrestQuiet : QuietBut path (o.next b) ops := fun i hi =>
      hquiet i (List.mem_cons_of_mem _ hi)
    have hthere := hb.hasDevice_next hdevice o
    by_cases ho : o.isTo path = true
    · -- Both runs take the step.
      have hstep := SameStep.of_isTo h hb hb' hdevice ho (hplain o (List.mem_cons_self ..))
      have hrest := ih hstep.daemon (hb.next o) (hb'.next o) hthere hrestPlain hrestQuiet
      rw [List.filter_cons_of_pos ho]
      refine ⟨hrest.daemon, ?_, ?_⟩
      · rw [resultsAt_cons_of_isTo ho, resultsAt_cons_of_isTo ho, hstep.result, hrest.results]
      · rw [queuedAt_cons, queuedAt_cons, hstep.queued, hrest.queued]
    · -- The other run stands still.
      have hnot : o.isTo path = false := by simpa using ho
      obtain ⟨hsame, hother⟩ := sameAt_next_of_not_isTo hnot fun m hcrash =>
        ho (hquiet ⟨b, o⟩ (List.mem_cons_self ..) m hcrash)
      have hrest := ih (hsame.trans h) (hb.next o) hb' hthere hrestPlain hrestQuiet
      have hnone : (Moment.queued ⟨b, o⟩).filter (fun m => decide (m.path = path)) = [] :=
        List.filter_eq_nil_iff.mpr fun m hm => by simpa using hother m hm
      rw [List.filter_cons_of_neg ho]
      refine ⟨hrest.daemon, ?_, ?_⟩
      · rw [resultsAt_cons_of_not_isTo ho, hrest.results]
      · rw [queuedAt_cons, hnone, List.nil_append]
        exact hrest.queued

theorem SameRun.of_filter {ops ops' : List (Operation ω)} (hb : b.Reachable)
    (hdevice : b.daemon.HasDevice path) (hplain : ∀ o ∈ ops, o.isPlain = true)
    (hplain' : ∀ o ∈ ops', o.isPlain = true) (hquiet : QuietBut path b ops)
    (hquiet' : QuietBut path b ops')
    (hsame : ops.filter (Operation.isTo path) = ops'.filter (Operation.isTo path)) :
    SameRun path b b ops ops' := by
  have hpurge := SameRun.purge (.refl path _) hb hb hdevice hplain hquiet
  have hpurge' := SameRun.purge (.refl path _) hb hb hdevice hplain' hquiet'
  rw [← hsame] at hpurge'
  exact hpurge.trans hpurge'.symm

end LocalBus

/-! ## Listeners -/

/-- A subscription to one object is given the same without what comes from others. -/
theorem Subscription.inTurn_filter_path {s : Subscription ω} {path : ObjectPath}
    (hs : s.rule.path? = some path) (ms : List Message) :
    invocationsInTurn (ms.filter fun m => m.path = path) [s] = invocationsInTurn ms [s] ∧
      remainingInTurn (ms.filter fun m => m.path = path) [s] = remainingInTurn ms [s] := by
  obtain ⟨token, rule, received, handler⟩ := s
  have hread : (ms.filter fun m => decide (m.path = path)).filterMap rule.read? =
      ms.filterMap rule.read? := by
    rw [List.filterMap_filter]
    refine congrArg (List.filterMap · ms) (funext fun m => ?_)
    by_cases hm : m.path = path
    · rw [if_pos (decide_eq_true hm)]
    · rw [if_neg (by simpa using hm)]
      cases hpayload : rule.read? m with
      | none => rfl
      | some payload => exact absurd ((MatchRule.read?_eq_some_iff.mp hpayload).1 path hs).symm hm
  rw [invocationsInTurn_singleton, invocationsInTurn_singleton, remainingInTurn_singleton,
    remainingInTurn_singleton, hread]
  exact ⟨rfl, rfl⟩

namespace LocalBus

variable {b : LocalBus ω} {path : ObjectPath} {ops ops' : List (Operation ω)}

/-- Two runs are alike for a device: whoever asks it is given the same, it is left in the same
state, and those who listened to it alone were told the same and still listen or not. What is done
in either run is what those do who were told. -/
structure AlikeAt (path : ObjectPath) (b : LocalBus ω) (ops ops' : List (Operation ω)) : Prop where
  results : resultsAt path b ops = resultsAt path b ops'
  device : (b.after ops).daemon.devices.get? path = (b.after ops').daemon.devices.get? path
  effects : ∀ run ∈ [ops, ops'], (moments b run).flatMap (fun i => i.outcome.effects) =
    Invocation.effects ((moments b run).flatMap Moment.invocations)
  heard : ∀ s ∈ b.subscriptions, s.rule.path? = some path →
    ((moments b ops).flatMap Moment.invocations).filter (fun i => decide (i.token = s.token)) =
      ((moments b ops').flatMap Moment.invocations).filter fun i => decide (i.token = s.token)
  remaining : ∀ s ∈ b.subscriptions, s.rule.path? = some path →
    (b.after ops).subscriptions.filter (fun x => decide (x.token = s.token)) =
      (b.after ops').subscriptions.filter fun x => decide (x.token = s.token)

theorem filter_processed (hqueue : (b.after ops).queue = []) :
    ((moments b ops).flatMap Moment.processed).filter (fun m => decide (m.path = path)) =
      b.queue.filter (fun m => decide (m.path = path)) ++ queuedAt path b ops := by
  rw [processed_of_queue_eq_nil hqueue, List.filter_append]
  rfl

/-- A listener to a device is told what comes from the device in a run without subscriptions. -/
theorem TokensOrdered.heard_at (h : b.TokensOrdered) (hplain : ∀ o ∈ ops, o.isPlain = true)
    (hqueue : (b.after ops).queue = []) {s : Subscription ω} (hs : s ∈ b.subscriptions)
    (hpath : s.rule.path? = some path) :
    let told := b.queue.filter (fun m => decide (m.path = path)) ++ queuedAt path b ops
    ((moments b ops).flatMap Moment.invocations).filter (fun i => decide (i.token = s.token)) =
        Subscription.invocationsInTurn told [s] ∧
      (b.after ops).subscriptions.filter (fun x => decide (x.token = s.token)) =
        Subscription.remainingInTurn told [s] := by
  intro told
  have hends : Operation.unsubscribe s.token ∉ ops := by
    intro hmem
    have htraffic := Operation.isTraffic_of_isPlain (hplain _ hmem)
    cases htraffic
  obtain ⟨hremaining, hinvocations⟩ := h.after_of_mem hs hends
  obtain ⟨htold, hleft⟩ :=
    Subscription.inTurn_filter_path hpath ((moments b ops).flatMap Moment.processed)
  rw [filter_processed hqueue] at htold hleft
  exact ⟨hinvocations.trans htold.symm, hremaining.trans hleft.symm⟩

theorem SameRun.alikeAt (h : SameRun path b b ops ops') (hb : b.TokensOrdered)
    (hplain : ∀ o ∈ ops, o.isPlain = true) (hplain' : ∀ o ∈ ops', o.isPlain = true)
    (hqueue : (b.after ops).queue = []) (hqueue' : (b.after ops').queue = []) :
    b.AlikeAt path ops ops' := by
  -- Neither run subscribes or ends a subscription, so what is queued from the device decides.
  refine ⟨h.results, h.daemon.device, fun run _ => effects_moments b run, fun s hs hpath => ?_,
    fun s hs hpath => ?_⟩
  · rw [(hb.heard_at hplain hqueue hs hpath).1, (hb.heard_at hplain' hqueue' hs hpath).1, h.queued]
  · rw [(hb.heard_at hplain hqueue hs hpath).2, (hb.heard_at hplain' hqueue' hs hpath).2, h.queued]

/-! ## Isolation -/

theorem quietBut_of_stays (h : ∀ o ∈ ops, o.stays path = true) : QuietBut path b ops := by
  rintro i hi m ⟨c, hc, _⟩
  obtain ⟨before, later, hops, _⟩ := exists_of_mem_moments hi
  have hstays := h i.operation (hops ▸ List.mem_append_right _ (List.mem_cons_self ..))
  rw [hc] at hstays ⊢
  simpa [Operation.stays, Operation.handsOn] using hstays

theorem QuietBut.cons {o : Operation ω}
    (hfirst : o.isTo path = true ∨ ∀ m, ¬ Moment.crashes ⟨b, o⟩ m)
    (hrest : QuietBut path (o.next b) ops) : QuietBut path b (o :: ops) := by
  intro i hi m hcrash
  rcases List.mem_cons.mp hi with rfl | hlater
  · exact hfirst.resolve_right fun hquiet => hquiet m hcrash
  · exact hrest i hlater m hcrash

theorem QuietBut.drain (h : QuietBut path b ops) : QuietBut path b (ops ++ [.drain]) := by
  intro i hi m hcrash
  rw [moments_append] at hi
  rcases List.mem_append.mp hi with hrun | hlast
  · exact h i hrun m hcrash
  · obtain ⟨c, hc, _⟩ := hcrash
    rw [List.mem_singleton.mp hlast] at hc
    cases hc

/-- Runs that address the same to a device are alike for it once everything is handed on. -/
theorem alikeAt_of_filter (hb : b.Reachable) (hdevice : b.daemon.HasDevice path)
    (hplain : ∀ o ∈ ops, o.isPlain = true) (hplain' : ∀ o ∈ ops', o.isPlain = true)
    (hquiet : QuietBut path b ops) (hquiet' : QuietBut path b ops')
    (hsame : ops.filter (Operation.isTo path) = ops'.filter (Operation.isTo path)) :
    b.AlikeAt path (ops ++ [.drain]) (ops' ++ [.drain]) := by
  have hdrained : ∀ {run : List (Operation ω)}, (∀ o ∈ run, o.isPlain = true) →
      ∀ o ∈ run ++ [.drain], o.isPlain = true := by
    intro run hrun o ho
    rcases List.mem_append.mp ho with hmem | hlast
    · exact hrun o hmem
    · rw [List.mem_singleton.mp hlast]
      rfl
  have hrun : SameRun path b b (ops ++ [.drain]) (ops' ++ [.drain]) :=
    .of_filter hb hdevice (hdrained hplain) (hdrained hplain') hquiet.drain hquiet'.drain (by
      rw [List.filter_append, List.filter_append, hsame])
  exact hrun.alikeAt hb.tokensOrdered (hdrained hplain) (hdrained hplain')
    (queue_after_drain b ops) (queue_after_drain b ops')

/-- **Devices do not interfere.** In a state that is reached a device is there, and a run follows
that ends in handing on everything. Nothing crashes in it on the full counter of another device.
Then what is addressed to others may be left out: for the device the runs are alike. It may also
come in another order: two operations with different addressees can change places, and the runs are
alike for any device, if nothing crashes on others in either. -/
theorem devices_isolated (hb : b.Reachable) (hdevice : b.daemon.HasDevice path)
    (hplain : ∀ o ∈ ops, o.isPlain = true) (hquiet : QuietBut path b ops) :
    b.AlikeAt path (ops ++ [.drain]) (ops.filter (Operation.stays path) ++ [.drain]) ∧
    ∀ front x y back, ops = front ++ x :: y :: back → x.addressee? ≠ y.addressee? →
      QuietBut path b (front ++ y :: x :: back) →
      b.AlikeAt path (ops ++ [.drain]) (front ++ y :: x :: back ++ [.drain]) := by
  constructor
  · have hleft : ∀ o ∈ ops.filter (Operation.stays path), o.isPlain = true := fun o ho =>
      hplain o (List.mem_of_mem_filter ho)
    have hstays : ∀ o ∈ ops.filter (Operation.stays path), o.stays path = true := fun o ho =>
      (List.mem_filter.mp ho).2
    refine alikeAt_of_filter hb hdevice hplain hleft hquiet (quietBut_of_stays hstays) ?_
    rw [List.filter_filter]
    refine List.filter_congr fun o _ => ?_
    cases ho : o.isTo path <;> simp [Operation.stays, ho]
  · rintro front x y back rfl hne hquiet'
    have hplain' : ∀ o ∈ front ++ y :: x :: back, o.isPlain = true := by
      intro o ho
      refine hplain o ?_
      simp only [List.mem_append, List.mem_cons] at ho ⊢
      tauto
    refine alikeAt_of_filter hb hdevice hplain hplain' hquiet hquiet' ?_
    -- One of the two at most is addressed to the device.
    have hone : x.isTo path = false ∨ y.isTo path = false := by
      by_contra hboth
      simp only [not_or, Bool.not_eq_false, Operation.isTo, decide_eq_true_eq] at hboth
      exact hne (hboth.1.trans hboth.2.symm)
    rcases hone with hx | hy
    · simp [List.filter_cons, hx]
    · simp [List.filter_cons, hy]

/-- Two devices, the first of which is listened to. -/
def twoDevices : LocalBus Bool :=
  LocalBus.initial.after
    [.addDevice "a", .addDevice "b",
      .subscribe (some (lettered 'a')) .connectionStatusChanged (.output id)]

/-- Starts the device with a name of one letter. -/
def starting (c : Char) : Operation Bool :=
  .call (Method.start.callAt (lettered c) [])

/-- The first device is started and released by hand, and it does not matter whether the second is
started before it, after it or not at all. -/
theorem devices_isolated_starting :
    let later : List (Operation Bool) := [.process, .call (shutdownCall "a")]
    let run := starting 'b' :: starting 'a' :: later
    QuietBut (lettered 'a') twoDevices run ∧
      run.filter (Operation.stays (lettered 'a')) = starting 'a' :: later ∧
      twoDevices.AlikeAt (lettered 'a') (run ++ [.drain]) (starting 'a' :: later ++ [.drain]) ∧
      twoDevices.AlikeAt (lettered 'a') (run ++ [.drain])
        (starting 'a' :: starting 'b' :: later ++ [.drain]) := by
  intro later run
  have hreached : twoDevices.Reachable := Reachable.initial.after _
  have hanswered : ∀ bus : LocalBus Bool,
      (bus.daemon.serve (Method.start.callAt (lettered 'b') [])).ending = .ok [] →
      ∀ m, ¬ Moment.crashes ⟨bus, starting 'b'⟩ m := by
    intro bus hending m hcrash
    have hcrashed := (Moment.crashes_call_iff.mp hcrash).2
    rw [hending] at hcrashed
    cases hcrashed
  have hquiet : QuietBut (lettered 'a') twoDevices run :=
    .cons (.inr (hanswered _ rfl)) (quietBut_of_stays (by decide +kernel))
  have hquiet' : QuietBut (lettered 'a') twoDevices (starting 'a' :: starting 'b' :: later) :=
    .cons (.inl rfl) (.cons (.inr (hanswered _ rfl)) (quietBut_of_stays (by decide +kernel)))
  have hplain : ∀ o ∈ run, o.isPlain = true := by decide +kernel
  have hdevice : twoDevices.daemon.HasDevice (lettered 'a') := rfl
  obtain ⟨hleft, hswapped⟩ := devices_isolated hreached hdevice hplain hquiet
  have hfilter : run.filter (Operation.stays (lettered 'a')) = starting 'a' :: later := rfl
  rw [hfilter] at hleft
  have hne : (starting 'b').addressee? ≠ (starting 'a').addressee? := by decide +kernel
  exact ⟨hquiet, hfilter, hleft, hswapped [] _ _ later rfl hne hquiet'⟩

/-- Two devices, the second of which has been started as often as can be counted. -/
def fullBeside : LocalBus Bool :=
  LocalBus.initial.after
    [.addDevice "a", .addDevice "b", .updateDevice "b" fun s => { s with started := 4294967295 }]

/-- Once starting has crashed on the second device the first cannot be started, though it can where
the crash is left out. -/
theorem not_alikeAt_after_crash :
    let run := [starting 'b', starting 'a']
    fullBeside.Reachable ∧ fullBeside.daemon.HasDevice (lettered 'a') ∧
      (∀ o ∈ run, o.isPlain = true) ∧
      run.filter (Operation.stays (lettered 'a')) = [starting 'a'] ∧
      resultsAt (lettered 'a') fullBeside (run ++ [.drain]) =
        [.error (.client (.fault (.methodBusy "Start")))] ∧
      resultsAt (lettered 'a') fullBeside ([starting 'a'] ++ [.drain]) = [.ok (.values [])] ∧
      ¬ fullBeside.AlikeAt (lettered 'a') (run ++ [.drain]) ([starting 'a'] ++ [.drain]) := by
  intro run
  have hreached : fullBeside.Reachable := Reachable.initial.after _
  have hrefused : resultsAt (lettered 'a') fullBeside (run ++ [.drain]) =
      [.error (.client (.fault (.methodBusy "Start")))] := rfl
  have hanswered : resultsAt (lettered 'a') fullBeside ([starting 'a'] ++ [.drain]) =
      [.ok (.values [])] := rfl
  refine ⟨hreached, rfl, by decide +kernel, rfl, hrefused, hanswered, fun halike => ?_⟩
  have hsame := halike.results
  rw [hrefused, hanswered] at hsame
  cases hsame

end LocalBus

end Positioning
