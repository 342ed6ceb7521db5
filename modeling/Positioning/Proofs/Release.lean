import Positioning.Proofs.Daemon.Objects
import Positioning.Proofs.SessionOrder

/-!
# The release of clients

The tool that shows satellites makes a client, watches, dispatches until the bus fails, and releases
its client. What it ends with is the failure of dispatching, however the release goes. A session
that fails ends the tool at once: a client that it has made by then is not released.

## Main definitions

- `Step.isShutdown` tells the requests that release a client.
- `Tool.dispatchAndRelease` is what the tool does once its session has begun.

## Main statements

- `Bus.run_dispatch_add`: once dispatching has failed, more rounds make no difference.
- `Tool.satellites_released`: when the tool returns, and whether the client is released by then.
-/

namespace Positioning

open Wire

variable {β ω ε α γ : Type}

/-- Whether a step asks for the release of a client. -/
def Step.isShutdown (step : Step) : Bool :=
  match step.request with
  | .call c => c.method = "Shutdown"
  | _ => false

/-- Dispatching that does not come to the end of its rounds is not changed by more of them. -/
theorem Bus.run_dispatch_add (bus : Bus β ω) {rounds : Nat} {s : β}
    (h : ((bus.dispatch rounds).run s).result ≠ .ok ()) (more : Nat) :
    (bus.dispatch (rounds + more)).run s = (bus.dispatch rounds).run s := by
  induction rounds generalizing s with
  | zero => exact absurd rfl h
  | succ rounds ih =>
    rw [Nat.succ_add]
    unfold dispatch at h ⊢
    cases hprocess : (bus.process.run s).result with
    | ok there =>
      rw [Action.run_bind_of_ok _ hprocess] at h ⊢
      rw [Action.run_bind_of_ok _ hprocess, ih h]
    | error e => rw [Action.run_bind_of_error _ hprocess, Action.run_bind_of_error _ hprocess]
    | crash c => rw [Action.run_bind_of_crash _ hprocess, Action.run_bind_of_crash _ hprocess]

namespace Action

/-- What is attempted does not fail. -/
theorem attempt_ne_error {ε' : Type} (x : Action β ε ω α) (s : β) (e : ε') :
    ((Action.attempt x).run s).result ≠ .error e := by
  intro h
  unfold Action.attempt at h
  cases hx : (x.run s).result <;> simp [hx] at h

theorem result_of_attempt {ε' : Type} {x : Action β ε ω α} {s : β} {r : Except ε α}
    (h : ((Action.attempt x : Action β ε' ω (Except ε α)).run s).result = .ok r) :
    (x.run s).result = .ofExcept r := by
  unfold Action.attempt at h
  cases hx : (x.run s).result with
  | ok a =>
    simp only [hx] at h
    rw [← Ending.ok.inj h]
    rfl
  | error e =>
    simp only [hx] at h
    rw [← Ending.ok.inj h]
    rfl
  | crash c =>
    simp only [hx] at h
    cases h

end Action

namespace Tool

/-- What the tool does once its session has begun. -/
def dispatchAndRelease (bus : Bus β String) (rounds : Nat) (device : String) :
    Action β ClientError String Unit := do
  let result ← Action.attempt (bus.dispatch rounds)
  release bus device
  Action.ofExcept result

theorem satellitesWork_eq (bus : Bus β String) (rounds : Nat) (device : String) :
    satellitesWork bus rounds device =
      Session.watchSatellites bus id device >>= fun _ => dispatchAndRelease bus rounds device :=
  rfl

/-! ## Releasing -/

/-- The release of a client is seen as one request, however it ends. -/
theorem isSeen_release (bus : Bus β String) (device : String) (s : β) :
    ∃ step : Step, step.request = .call (Client.controlCall "Shutdown" device) ∧
      (release bus.observed device).IsSeen (release bus device) s [step] := by
  have hshutdown : (Client.shutdown bus.observed device).IsSeen (Client.shutdown bus device) s _ :=
    (Action.isSeen_request bus Reply.unit (Client.controlCall "Shutdown" device) s).log_bind
  refine ⟨_, rfl, hshutdown.attempt.bind_of_unseen ?_⟩
  intro result t
  cases result with
  | ok _ => exact Action.isSeen_pure () t
  | error e => exact Action.isSeen_log .error (.tool .satellites) _ t

theorem release_ne_error (bus : Bus β String) (device : String) (s : β) (e : ClientError) :
    ((release bus device).run s).result ≠ .error e := by
  intro h
  rcases Action.error_of_run_bind h with hshutdown | ⟨result, _, hlog⟩
  · exact Action.attempt_ne_error _ s e hshutdown
  · cases result with
    | ok _ => cases hlog
    | error _ => cases hlog

/-- Where dispatching and the release end with a failure, it is that of dispatching, and the release
was the last request. -/
theorem dispatchAndRelease_of_error {bus : Bus β String} {rounds : Nat} {device : String} {s : β}
    {e : ClientError} (h : ((dispatchAndRelease bus rounds device).run s).result = .error e) :
    ((bus.dispatch rounds).run s).result = .error e ∧
      ∃ (dispatched : List Step) (last : Step),
        bus.Follows (List.replicate rounds .process) dispatched (.error e) ∧
        last.request = .call (Client.controlCall "Shutdown" device) ∧
        (dispatchAndRelease bus.observed rounds device).IsSeen
          (dispatchAndRelease bus rounds device) s (dispatched ++ [last]) := by
  -- An attempt does not fail, nor does the release: it is what was kept of dispatching that does.
  rcases Action.error_of_run_bind h with hattempt | ⟨result, hattempt, hrest⟩
  · exact absurd hattempt (Action.attempt_ne_error _ s e)
  rcases Action.error_of_run_bind hrest with hrelease | ⟨_, hrelease, hresult⟩
  · exact absurd hrelease (release_ne_error bus device _ e)
  have hdispatch : ((bus.dispatch rounds).run s).result = .error e :=
    (Action.result_of_attempt hattempt).trans hresult
  obtain ⟨dispatched, hseen, hcarries⟩ := Action.carriesOut_dispatch bus rounds s
  obtain ⟨last, hlast, hreleased⟩ := isSeen_release bus device _
  rw [hdispatch] at hcarries
  refine ⟨hdispatch, dispatched, last, hcarries.follows, hlast, ?_⟩
  exact hseen.attempt.bind_of_ok hattempt
    (hreleased.bind_of_unseen fun _ t => Action.isSeen_ofExcept result t)

/-- What follows the plan of a session releases no client. -/
theorem countP_isShutdown_session {bus : Bus β String} {device : String} {path : ObjectPath}
    {kinds : List SignalKind} {steps : List Step} {r : Ending ClientError Unit}
    (h : bus.Follows (Session.plan device path kinds) steps r) :
    steps.countP Step.isShutdown = 0 := by
  refine List.countP_eq_zero.mpr fun step hstep => ?_
  have hplanned := h.mem_plan hstep
  simp only [Session.plan, Session.planAt, List.mem_cons, List.mem_append, List.mem_map,
    List.not_mem_nil, or_false] at hplanned
  unfold Step.isShutdown
  rcases hplanned with hcreate | ⟨kind, _, hsubscribe⟩ | hstart
  · rw [hcreate]
    show ¬ decide ("Create" = "Shutdown") = true
    decide
  · rw [← hsubscribe]
    exact Bool.false_ne_true
  · rw [hstart]
    show ¬ decide ("Start" = "Shutdown") = true
    decide

theorem countP_isShutdown_process {steps : List Step}
    (h : ∀ step ∈ steps, step.request = .process) : steps.countP Step.isShutdown = 0 := by
  refine List.countP_eq_zero.mpr fun step hstep => ?_
  rw [Step.isShutdown, h step hstep]
  exact Bool.false_ne_true

/-- Rounds of processing that fail are such that pass and one that does not. -/
theorem exists_failing {bus : Bus β String} {rounds : Nat} {dispatched : List Step}
    {e : ClientError}
    (h : bus.Follows (List.replicate rounds .process) dispatched (.error e)) :
    ∃ passed failing, dispatched = passed ++ [failing] ∧
      (∀ step ∈ passed, step.request = .process ∧ bus.verdict step = .ok ()) ∧
      failing.request = .process ∧ bus.verdict failing = .error e := by
  have hprocess : ∀ step ∈ dispatched, step.request = .process := fun step hstep =>
    List.eq_of_mem_replicate (h.mem_plan hstep)
  obtain ⟨failing, hlast, hverdict⟩ := h.stopped fun hok => nomatch hok
  refine ⟨dispatched.dropLast, failing, (List.dropLast_append_getLast? failing hlast).symm, ?_,
    hprocess failing (List.mem_of_getLast? hlast), hverdict⟩
  intro step hstep
  exact ⟨hprocess step (List.dropLast_subset _ hstep), h.passed step hstep⟩

/-- More rounds make no difference to what the tool does when dispatching has failed. -/
theorem run_dispatchAndRelease_add {bus : Bus β String} {rounds : Nat} {s : β} {e : ClientError}
    (h : ((bus.dispatch rounds).run s).result = .error e) (device : String) (more : Nat) :
    (dispatchAndRelease bus (rounds + more) device).run s =
      (dispatchAndRelease bus rounds device).run s := by
  have hsame := bus.run_dispatch_add (by rw [h]; exact fun hok => nomatch hok) more
  have hattempt : (Action.attempt (bus.dispatch (rounds + more)) :
      Action β ClientError String (Except ClientError Unit)).run s =
      (Action.attempt (bus.dispatch rounds)).run s := by
    simp only [Action.attempt, hsame]
  exact Action.run_bind_congr hattempt _

/-- **Release.** When the tool returns, on whatever bus, either its session has failed, and with the
session's failure it returns at once and releases nothing; or the session has begun, rounds of
processing have passed up to one that failed, the client has then been released by one request as
the last of all, and it is the failed round that the tool ends with. How many rounds it was given
then makes no difference. -/
theorem satellites_released (bus : Bus β String) (s : β) (rounds : Nat) (device : String)
    {e : ToolError}
    (h : (((satellitesWork bus rounds device).mapError ToolError.client).run s).result =
      .error e) :
    ∃ path watched r cause, e = .client cause ∧
      Session.Ordered bus s device [.satellitesChanged]
        (Session.watchSatellites bus.observed id device) (Session.watchSatellites bus id device)
        path watched r ∧
      ((r = .error cause ∧ watched.countP Step.isShutdown = 0 ∧
          (satellitesWork bus.observed rounds device).IsSeen (satellitesWork bus rounds device) s
            watched) ∨
        r = .ok () ∧ ∃ passed failing last,
          (∀ step ∈ passed, step.request = .process ∧ bus.verdict step = .ok ()) ∧
          failing.request = .process ∧ bus.verdict failing = .error cause ∧
          last.request = .call (Client.controlCall "Shutdown" device) ∧
          (watched ++ passed ++ [failing]).countP Step.isShutdown = 0 ∧
          (satellitesWork bus.observed rounds device).IsSeen (satellitesWork bus rounds device) s
            (watched ++ passed ++ [failing] ++ [last])) ∧
      ∀ more, (satellitesWork bus (rounds + more) device).run s =
        (satellitesWork bus rounds device).run s := by
  obtain ⟨cause, hwork, rfl⟩ := Ending.mapError_eq_error_iff.mp h
  obtain ⟨path, watched, r, hordered⟩ := Session.watchSatellites_ordered bus s id device
  have hwatched := countP_isShutdown_session hordered.follows
  refine ⟨path, watched, r, cause, rfl, hordered, ?_⟩
  rcases Action.error_of_run_bind hwork with hsession | ⟨given, hsession, hrest⟩
  · have hr : r = .error cause :=
      Ending.map_eq_error_iff.mp (hordered.result_eq.symm.trans hsession)
    refine ⟨.inl ⟨hr, hwatched, ?_⟩, ?_⟩
    · exact hordered.isSeen.bind_of_stopped fun _ hok => nomatch hsession.symm.trans hok
    · intro more
      exact (Action.run_bind_of_error _ hsession).trans (Action.run_bind_of_error _ hsession).symm
  · obtain ⟨_, hr, _⟩ := Ending.map_eq_ok_iff.mp (hordered.result_eq.symm.trans hsession)
    obtain ⟨hdispatch, dispatched, last, hfollows, hlast, hseen⟩ :=
      dispatchAndRelease_of_error hrest
    obtain ⟨passed, failing, rfl, hpassed, hfailing, hverdict⟩ := exists_failing hfollows
    refine ⟨.inr ⟨hr, passed, failing, last, hpassed, hfailing, hverdict, hlast, ?_, ?_⟩, ?_⟩
    · rw [List.append_assoc, List.countP_append, hwatched, Nat.zero_add]
      exact countP_isShutdown_process fun step hstep =>
        List.eq_of_mem_replicate (hfollows.mem_plan hstep)
    · have hall : (satellitesWork bus.observed rounds device).IsSeen
          (satellitesWork bus rounds device) s (watched ++ (passed ++ [failing] ++ [last])) :=
        Action.IsSeen.bind_of_ok (g := fun _ => dispatchAndRelease bus.observed rounds device)
          (f := fun _ => dispatchAndRelease bus rounds device) hordered.isSeen hsession hseen
      rwa [← List.append_assoc, ← List.append_assoc] at hall
    · intro more
      rw [satellitesWork_eq, satellitesWork_eq, Action.run_bind_of_ok _ hsession,
        Action.run_bind_of_ok _ hsession, run_dispatchAndRelease_add hdispatch]

/-- A connection to a daemon with one device, which does not answer some methods. When the device is
started the satellites in view are signalled, and then the bus hangs up. -/
def attached (mute : List String) : Connection String :=
  .fresh .default ⟨Daemon.initial.addDeviceAt (LocalBus.lettered 'a'), mute, .empty⟩
    ⟨.replyTo "Start",
      [SignalKind.satellitesChanged.message (LocalBus.lettered 'a') ([] : List Satellite)], true⟩

/-- The satellites are shown, the bus hangs up, and the release is asked for in vain. -/
theorem satellites_released_hungUp :
    (((satellitesWork Connection.bus 3 "a").mapError ToolError.client).run (attached [])).result =
        .error (.client (.transport .hungUp)) ∧
      ∃ steps last, last.request = .call (Client.controlCall "Shutdown" "a") ∧
        steps.countP Step.isShutdown = 0 ∧
        (satellitesWork Connection.bus.observed 3 "a").IsSeen (satellitesWork Connection.bus 3 "a")
          (attached []) (steps ++ [last]) := by
  have hreturns : (((satellitesWork Connection.bus 3 "a").mapError ToolError.client).run
      (attached [])).result = .error (.client (.transport .hungUp)) := by rfl
  refine ⟨hreturns, ?_⟩
  obtain ⟨_, watched, _, _, _, _, ⟨_, hnone, hseen⟩ | ⟨_, _, _, last, _, _, _, hlast, hnone, hseen⟩,
    _⟩ := satellites_released Connection.bus (attached []) 3 "a" hreturns
  · -- A release is seen in the run, so it is not the session that failed.
    have hreleased : ((satellitesWork Connection.bus.observed 3 "a").run
        ⟨attached [], []⟩).state.steps.countP Step.isShutdown = 1 := by rfl
    rw [hseen [], List.nil_append, hnone] at hreleased
    cases hreleased
  · exact ⟨_, last, hlast, hnone, hseen⟩

/-- A device that does not answer its start leaves the tool with a client that is not released. -/
theorem satellites_unreleased :
    let seen := (satellitesWork Connection.bus.observed 3 "a").run ⟨attached ["Start"], []⟩
    seen.result = .error (.transport .noReply) ∧
      seen.state.steps.head? = some ⟨.call (Client.controlCall "Create" "a"),
        .ok [Argument.toValue (LocalBus.lettered 'a')]⟩ ∧
      seen.state.steps.countP Step.isShutdown = 0 ∧
      seen.state.state.remote.daemon.clients = ["a"] := by
  refine ⟨rfl, rfl, rfl, rfl⟩

end Tool

end Positioning
