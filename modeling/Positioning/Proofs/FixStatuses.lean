import Positioning.Proofs.Bus.DeliveryLaw
import Positioning.Proofs.Daemon.Getters
import Positioning.Proofs.Daemon.Switches

/-!
# Fix statuses

A fix status is signalled by its number, and a number may stand for none. Whoever listens for fix
statuses is told of those that stand for one; the others become warnings in the log, each in its
place, and nothing else comes of them: whoever listens goes on to listen. A getter never comes
across such a number, because the daemon keeps fix statuses and not numbers.

## Main definitions

- `FixStatus.signalled?` is the number that a message signals from a path.
- `FixStatus.ComesTo` relates a number that is signalled to what comes of it.
- `FixStatus.listening` is a run in which someone listens for the fix statuses of a device.

## Main statements

- `FixStatus.forall₂_comesTo`: what comes of numbers that are signalled one after the other.
- `LocalBus.Reachable.fixStatus_cases`: what the getter gives, at any path.
- `FixStatus.all_told`: what is heard and what is logged in a run.
-/

namespace Positioning

open Wire

variable {ω : Type}

/-- A handler that reacts to each payload by itself is run on all that it is offered. -/
theorem Handler.responses_forEach {α : Type} (effects : α → List (Effect ω))
    (past offered : List α) :
    (Handler.forEach effects).responses past offered =
      offered.map fun a => (a, ⟨effects a, true⟩) := by
  induction offered generalizing past with
  | nil => rfl
  | cons a offered ih => rw [responses, ih, List.map_cons]; rfl

namespace SubscribedRun

variable (r : SubscribedRun ω) {effects : r.rule.kind.Payload → List (Effect ω)}

theorem invocations_of_forEach (h : r.handler = .forEach effects) :
    r.invocations = r.offered.map fun a => ⟨r.token, r.rule.kind, a, effects a, true⟩ := by
  rw [r.invocations_eq_responses, h, Handler.responses_forEach, List.map_map]
  rfl

/-- What such a handler does in a run is what it does for each payload. -/
theorem effects_of_forEach (h : r.handler = .forEach effects) :
    Invocation.effects r.invocations = r.offered.flatMap effects := by
  rw [r.invocations_of_forEach h, Invocation.effects, List.flatMap_map]

/-- Its subscription is there until it is ended. -/
theorem exists_final_iff_of_forEach (h : r.handler = .forEach effects) :
    (∃ s ∈ r.final.subscriptions, s.token = r.token) ↔ Operation.unsubscribe r.token ∉ r.after := by
  rw [r.exists_final_iff, r.invocations_of_forEach h, List.forall_mem_map]
  exact and_iff_left fun _ _ => rfl

end SubscribedRun

namespace FixStatus

/-- The numbers that stand for a fix status are those of the statuses. -/
theorem ofInt32?_eq_some_iff {n : Int32} {status : FixStatus} :
    ofInt32? n = some status ↔ status.toInt32 = n := by
  constructor
  · intro h
    unfold ofInt32? at h
    split at h
    · next hn => rw [hn, ← Option.some.inj h]; rfl
    split at h
    · next hn => rw [hn, ← Option.some.inj h]; rfl
    split at h
    · next hn => rw [hn, ← Option.some.inj h]; rfl
    split at h
    · next hn => rw [hn, ← Option.some.inj h]; rfl
    · cases h
  · rintro rfl
    exact ofInt32?_toInt32 status

theorem ofInt32?_eq_none_iff {n : Int32} : ofInt32? n = none ↔ ∀ status, toInt32 status ≠ n := by
  rw [Option.eq_none_iff_forall_ne_some]
  exact forall_congr' fun status => not_congr ofInt32?_eq_some_iff

/-- The record of a number that stands for no fix status. -/
def warning (n : Int32) : Log.Record :=
  ⟨.warn, .device, "unknown fix status: " ++ Decimal.ofInt n.toInt⟩

/-! ## Signals -/

/-- The number that a message signals as the fix status of the device at a path, if it does. What
stands behind the number does not matter. -/
def signalled? (path : ObjectPath) (m : Message) : Option Int32 :=
  if m.path = path ∧ m.interface = "org.freedesktop.Gypsy.Device" ∧
      m.member = "FixStatusChanged" then
    match m.arguments with
    | .int32 n :: _ => some n
    | _ => none
  else none

theorem signalled?_eq_some_iff {path : ObjectPath} {m : Message} {n : Int32} :
    signalled? path m = some n ↔ (m.path = path ∧ m.interface = "org.freedesktop.Gypsy.Device" ∧
      m.member = "FixStatusChanged") ∧ ∃ more, m.arguments = .int32 n :: more := by
  unfold signalled?
  split
  · next hnamed =>
    rw [and_iff_right hnamed]
    split
    · next n' more harguments => simp [harguments]
    · next hother => simpa using fun more harguments => hother n more harguments
  · next hnamed => simp [hnamed]

theorem decode_eq_ok_iff {arguments : List Value} {n : Int32} :
    SignalKind.fixStatusChanged.decode arguments = .ok n ↔
      ∃ more, arguments = .int32 n :: more := by
  show (argument arguments 0 : Except Mismatch Int32) = .ok n ↔ _
  cases arguments with
  | nil => simp [argument]
  | cons v more => cases v <;> simp [argument, Argument.ofValue?]

/-- Whoever listens for the fix statuses of a device reads the numbers that are signalled. -/
theorem read?_eq_signalled? (path : ObjectPath) (m : Message) :
    (⟨some path, .fixStatusChanged⟩ : MatchRule).read? m = signalled? path m := by
  refine Option.ext fun (n : Int32) => ?_
  refine (MatchRule.read?_eq_some_iff.trans ?_).trans signalled?_eq_some_iff.symm
  constructor
  · rintro ⟨hpath, hinterface, hmember, hdecode⟩
    exact ⟨⟨(hpath path rfl).symm, hinterface, hmember⟩, decode_eq_ok_iff.mp hdecode⟩
  · rintro ⟨⟨hpath, hinterface, hmember⟩, harguments⟩
    refine ⟨fun p hp => ?_, hinterface, hmember, decode_eq_ok_iff.mpr harguments⟩
    rw [hpath, ← Option.some.inj hp]

/-! ## What comes of numbers -/

/-- A number that stands for a fix status is told as this, any other number is logged. -/
inductive ComesTo (f : FixStatus → ω) : Int32 → Effect ω → Prop where
  | told (status : FixStatus) : ComesTo f status.toInt32 (.output (f status))
  | logged {n : Int32} (h : ∀ status, toInt32 status ≠ n) :
    ComesTo f n (.record (warning n))

variable (f : FixStatus → ω)

/-- One thing comes of a number. -/
theorem exists_comesTo (n : Int32) :
    ∃ effect, Client.fixStatusEffects f n = [effect] ∧ ComesTo f n effect := by
  unfold Client.fixStatusEffects Client.readFixStatus
  cases h : ofInt32? n with
  | none => exact ⟨_, rfl, .logged (ofInt32?_eq_none_iff.mp h)⟩
  | some status =>
    obtain rfl := ofInt32?_eq_some_iff.mp h
    exact ⟨_, rfl, .told status⟩

/-- One thing comes of each number, in the order of the numbers. -/
theorem forall₂_comesTo (numbers : List Int32) :
    List.Forall₂ (ComesTo f) numbers (numbers.flatMap (Client.fixStatusEffects f)) := by
  induction numbers with
  | nil => exact .nil
  | cons n numbers ih =>
    obtain ⟨effect, heffect, hcomes⟩ := exists_comesTo f n
    rw [List.flatMap_cons, heffect]
    exact .cons hcomes ih

variable {f}

/-- What is told is the fix statuses that the numbers stand for. -/
theorem outputs_of_comesTo {numbers : List Int32} {effects : List (Effect ω)}
    (h : List.Forall₂ (ComesTo f) numbers effects) :
    Effect.outputs effects = (numbers.filterMap ofInt32?).map f := by
  induction h with
  | nil => rfl
  | cons hfirst _ ih =>
    cases hfirst with
    | told status =>
      rw [Effect.outputs, ih, List.filterMap_cons_some (ofInt32?_toInt32 status), List.map_cons]
    | logged hnone =>
      rw [Effect.outputs, ih, List.filterMap_cons_none (ofInt32?_eq_none_iff.mpr hnone)]

/-- What is logged is the other numbers. -/
theorem records_of_comesTo {numbers : List Int32} {effects : List (Effect ω)}
    (h : List.Forall₂ (ComesTo f) numbers effects) :
    Effect.records effects = (numbers.filter fun n => ofInt32? n = none).map warning := by
  induction h with
  | nil => rfl
  | cons hfirst _ ih =>
    cases hfirst with
    | told status =>
      rw [Effect.records, ih, List.filter_cons_of_neg (by simp [ofInt32?_toInt32])]
    | logged hnone =>
      rw [Effect.records, ih,
        List.filter_cons_of_pos (by simpa using ofInt32?_eq_none_iff.mpr hnone), List.map_cons]

end FixStatus

/-! ## The getter -/

/-- A call goes to where its path is carried. -/
theorem Daemon.serve_carried_path (d : Daemon) (m : Method) (path : ObjectPath)
    (arguments : List Value) :
    d.serve (m.callAt path.carried arguments) = d.serve (m.callAt path arguments) := by
  simp only [serve, MethodCall.badName?, MethodCall.carried, Method.callAt,
    ObjectPath.carried_carried]

namespace LocalBus

variable {b : LocalBus ω}

/-- Where there is no device no method of devices is answered: the call is refused. -/
theorem Reachable.serve_without_device (hb : b.Reachable) {path : ObjectPath}
    (hnone : ¬ b.daemon.HasDevice path.carried) {m : Method} (hm : m.interface.isOfDevice = true)
    (arguments : List Value) :
    ∃ f, (b.daemon.serve (m.callAt path arguments)).ending = .error (.fault f) := by
  have hnames := Method.names_callAt m path arguments
  rcases b.daemon.serve_cases (m.callAt path arguments) with
    ⟨ending, hserve, hidle⟩ | ⟨object, m', _, hobject, hnames', hoffered, -, -, -⟩
  · have hserved := Daemon.serve_of_badName?_eq_none (MethodCall.badName?_of_names hnames) b.daemon
    rw [hserve] at hserved ⊢
    cases hanswer : b.daemon.answer (m.callAt path arguments).carried with
    | refused f =>
      rw [hanswer] at hserved
      exact ⟨f, congrArg Served.ending hserved⟩
    | answered a =>
      rw [hanswer] at hserved
      exact absurd (congrArg Served.ending hserved) (hidle.noAnswer m hnames a.reply)
    | crashed d =>
      rw [hanswer] at hserved
      exact absurd (congrArg Served.ending hserved) hidle.noCrash
  · -- The object would be that of a device.
    obtain rfl := MethodCall.names_unique hnames hnames'
    rw [Interface.mem_interfaces_iff_of_isOfDevice hm] at hoffered
    rw [hoffered, hb.agrees.device] at hobject
    exact absurd hobject hnone

/-- The getter gives the fix status that the daemon keeps for the device at a path, and is refused
where there is none. -/
theorem Reachable.fixStatus_cases (hb : b.Reachable) (path : ObjectPath) :
    (∃ state, b.daemon.devices.get? path.carried = some state ∧
        ((Client.fixStatus bus path).run b).result = .ok state.fixStatus) ∨
      b.daemon.devices.get? path.carried = none ∧
        ∃ f, ((Client.fixStatus bus path).run b).result = .error (.fault f) := by
  have hget : ((Client.get bus path .fixStatusChanged "GetFixStatus").run b).result =
      reading SignalKind.fixStatusChanged.decode
        (b.daemon.serve (Method.getFixStatus.callAt path [])).ending :=
    congrArg Outcome.result (run_request _ _ b)
  cases hdevice : b.daemon.devices.get? path.carried with
  | some state =>
    have hserve := hb.serve_get hdevice .fixStatus
    rw [show Datum.fixStatus.method = Method.getFixStatus from rfl,
      Daemon.serve_carried_path] at hserve
    rw [hserve] at hget
    refine .inl ⟨state, rfl, ?_⟩
    have hbind := Action.run_bind_of_ok (a := state.fixStatus.toInt32)
      (fun n => Action.ofExcept (Client.readFixStatus n)) hget
    exact (congrArg Outcome.result hbind).trans
      (congrArg Ending.ofExcept (Client.readFixStatus_toInt32 state.fixStatus))
  | none =>
    have hnone : ¬ b.daemon.HasDevice path.carried := by simp [Daemon.HasDevice, hdevice]
    obtain ⟨f, hrefused⟩ := hb.serve_without_device (m := .getFixStatus) hnone rfl []
    rw [hrefused] at hget
    exact .inr ⟨rfl, f, congrArg Outcome.result
      (Action.run_bind_of_error (fun n => Action.ofExcept (Client.readFixStatus n)) hget)⟩

end LocalBus

namespace FixStatus

/-! ## Listening -/

/-- A run in which someone listens for the fix statuses of the device at a path. -/
def listening (before : List (Operation ω)) (path : ObjectPath) (f : FixStatus → ω)
    (after : List (Operation ω)) : SubscribedRun ω where
  before := before
  rule := ⟨some path, .fixStatusChanged⟩
  handler := .forEach (Client.fixStatusEffects f)
  after := after

variable (before : List (Operation ω)) (path : ObjectPath) (f : FixStatus → ω)
  (after : List (Operation ω))

/-- What is done in such a run is done for the numbers that are signalled. -/
theorem effects_listening : Invocation.effects (listening before path f after).invocations =
    ((listening before path f after).heard.filterMap (signalled? path)).flatMap
      (Client.fixStatusEffects f) := by
  have hoffered : (listening before path f after).offered =
      (listening before path f after).heard.filterMap (signalled? path) :=
    List.filterMap_congr fun m _ => read?_eq_signalled? path m
  have heffects : Invocation.effects (listening before path f after).invocations =
      (listening before path f after).offered.flatMap (Client.fixStatusEffects f) :=
    (listening before path f after).effects_of_forEach rfl
  exact heffects.trans
    (congrArg (fun numbers => List.flatMap (Client.fixStatusEffects f) numbers) hoffered)

/-- **Fix statuses are told.** On a bus that any operations have led to, someone begins to listen
for the fix statuses of a device, and any operations follow. All that is done in the run is done by
the handlers that run in it. Of each number that is signalled while the listening lasts comes one
thing, in order: the fix status is told that the number stands for, or the number is logged if it
stands for none. So those that are told are exactly the former and those that are logged exactly the
latter. Nothing ends the listening but its own ending. Where fix statuses are asked for, no number
is given that stands for none. -/
theorem all_told :
    (Client.onFixStatus LocalBus.bus path f).run (listening before path f after).start =
      ⟨.ok (listening before path f after).token, [],
        (listening before path f after).own.next (listening before path f after).start⟩ ∧
    (listening before path f after).moments.flatMap (fun i => i.outcome.effects) =
      Invocation.effects ((listening before path f after).moments.flatMap Moment.invocations) ∧
    List.Forall₂ (ComesTo f) ((listening before path f after).heard.filterMap (signalled? path))
      (Invocation.effects (listening before path f after).invocations) ∧
    Effect.outputs (Invocation.effects (listening before path f after).invocations) =
      (((listening before path f after).heard.filterMap (signalled? path)).filterMap
        ofInt32?).map f ∧
    Effect.records (Invocation.effects (listening before path f after).invocations) =
      (((listening before path f after).heard.filterMap (signalled? path)).filter
        fun n => ofInt32? n = none).map
          (fun n => ⟨.warn, .device, "unknown fix status: " ++ Decimal.ofInt n.toInt⟩) ∧
    ((∃ s ∈ (listening before path f after).final.subscriptions,
        s.token = (listening before path f after).token) ↔
      Operation.unsubscribe (listening before path f after).token ∉ after) ∧
    ∀ b : LocalBus ω, b.Reachable → ∀ (path' : ObjectPath) (n : Int32),
      ((Client.fixStatus LocalBus.bus path').run b).result ≠ .error (.unknownFixStatus n) := by
  have hcomes := forall₂_comesTo f
    ((listening before path f after).heard.filterMap (signalled? path))
  rw [← effects_listening] at hcomes
  refine ⟨rfl, LocalBus.effects_moments _ _, hcomes, outputs_of_comesTo hcomes,
    records_of_comesTo hcomes, (listening before path f after).exists_final_iff_of_forEach rfl,
    fun b hb path' n => ?_⟩
  rcases hb.fixStatus_cases path' with ⟨_, _, hresult⟩ | ⟨_, _, hresult⟩
  · rw [hresult]
    exact fun h => nomatch h
  · rw [hresult]
    exact fun h => nomatch h

/-- Numbers that stand for fix statuses, with others before, between and behind them. -/
def mixed : List (Operation FixStatus) :=
  [4, 3, -1, 0].map (fun n : Int32 => .emitFor "a" .fixStatusChanged n) ++ [.drain]

/-- Those that stand for one are told and the others logged. The getter gives neither. -/
theorem all_told_mixed :
    let run := listening [.addDevice "a"] (LocalBus.lettered 'a') id mixed
    Effect.outputs (Invocation.effects run.invocations) = [.fix3D, .invalid] ∧
      Effect.records (Invocation.effects run.invocations) = [warning 4, warning (-1)] ∧
      Effect.outputs (run.moments.flatMap fun i => i.outcome.effects) = [.fix3D, .invalid] ∧
      Effect.records (run.moments.flatMap fun i => i.outcome.effects) =
        [warning 4, warning (-1)] ∧
      (∃ s ∈ run.final.subscriptions, s.token = run.token) ∧ run.final.Reachable ∧
      ((Client.fixStatus LocalBus.bus (LocalBus.lettered 'a')).run run.final).result ≠
        .error (.unknownFixStatus 4) := by
  intro run
  have hreached : run.final.Reachable := LocalBus.Reachable.initial.after _
  obtain ⟨_, heffects, _, houtputs, hrecords, hlasts, hgetter⟩ :=
    all_told [.addDevice "a"] (LocalBus.lettered 'a') id mixed
  refine ⟨?_, ?_, ?_, ?_, hlasts.mpr (by simp [mixed]), hreached, hgetter _ hreached _ 4⟩
  · rw [houtputs]
    rfl
  · rw [hrecords]
    rfl
  · rw [heffects]
    rfl
  · rw [heffects]
    rfl

end FixStatus

end Positioning
