import Positioning.Proofs.Bus.Run
import Positioning.Client

/-!
# Clients of the bus inside the process

A request is one call, and ends as the call does, if its reply reads as it should. That is so on any
bus. What a client does to a local bus is a run of calls and subscriptions.

## Main definitions

- `Bus.reading` and `LocalBus.reading` are how a call ends whose reply is read.
- `Action.IsRun` says that an action does to a bus what some calls and subscriptions do to it.

## Main statements

- `Action.IsRun.bind`: runs may follow one another.
- `Bus.run_request` and `Client.run_create`: how requests end on any bus.
- `LocalBus.run_request`, `LocalBus.run_create`, `LocalBus.run_shutdown` and `LocalBus.run_start`:
  how requests end, and the bus that they leave.
-/

namespace Positioning

open Wire

variable {ω α γ ε : Type}

/-! ## Sequences of actions -/

namespace Action

/-- A sequence that gives a value gives it from a value of its first part. -/
theorem ok_of_run_bind {β : Type} {x : Action β ε ω α} {f : α → Action β ε ω γ} {s : β} {c : γ}
    (h : ((x >>= f).run s).result = .ok c) :
    ∃ a, (x.run s).result = .ok a ∧ ((f a).run (x.run s).state).result = .ok c := by
  cases hx : (x.run s).result with
  | ok a =>
    rw [run_bind_of_ok f hx] at h
    exact ⟨a, rfl, h⟩
  | error e =>
    rw [run_bind_of_error f hx] at h
    cases h
  | crash k =>
    rw [run_bind_of_crash f hx] at h
    cases h

/-- A sequence that fails fails in one of its parts. -/
theorem error_of_run_bind {β : Type} {x : Action β ε ω α} {f : α → Action β ε ω γ} {s : β} {e : ε}
    (h : ((x >>= f).run s).result = .error e) :
    (x.run s).result = .error e ∨
      ∃ a, (x.run s).result = .ok a ∧ ((f a).run (x.run s).state).result = .error e := by
  cases hx : (x.run s).result with
  | ok a =>
    rw [run_bind_of_ok f hx] at h
    exact .inr ⟨a, rfl, h⟩
  | error e' =>
    rw [run_bind_of_error f hx] at h
    exact .inl (congrArg _ (Ending.error.inj h))
  | crash c =>
    rw [run_bind_of_crash f hx] at h
    cases h

theorem run_bind_congr {β : Type} {x y : Action β ε ω α} {s : β} (h : x.run s = y.run s)
    (f : α → Action β ε ω γ) : (x >>= f).run s = (y >>= f).run s := by
  show (Action.bind x f).run s = (Action.bind y f).run s
  simp only [Action.bind, h]

theorem run_bind_of_passing {β : Type} {x : Action β ε ω α} {f : α → Action β ε ω α}
    (hf : ∀ a s, ((f a).run s).result = .ok a ∧ ((f a).run s).state = s) (s : β) :
    ((x >>= f).run s).result = (x.run s).result ∧ ((x >>= f).run s).state = (x.run s).state := by
  cases hx : (x.run s).result with
  | ok a => rw [run_bind_of_ok f hx]; exact hf a _
  | error e => rw [run_bind_of_error f hx]; exact ⟨rfl, rfl⟩
  | crash k => rw [run_bind_of_crash f hx]; exact ⟨rfl, rfl⟩

/-- Writing to the log first changes neither how a sequence ends nor what state it leaves. -/
theorem run_log_bind {β : Type} (level : Log.Level) (source : Log.Source) (text : String)
    (x : Action β ε ω α) (s : β) :
    ((log level source text >>= fun _ => x).run s).result = (x.run s).result ∧
      ((log level source text >>= fun _ => x).run s).state = (x.run s).state :=
  ⟨rfl, rfl⟩

end Action

namespace Operation

/-- The operations that clients ask for: calls and subscriptions. -/
def isRequest : Operation ω → Bool
  | call _ => true
  | subscribe .. => true
  | _ => false

end Operation

/-- The action does to a local bus what some calls and subscriptions do to it, and puts nothing
out. -/
def Action.IsRun (x : Action (LocalBus ω) ε ω α) : Prop :=
  ∀ b, ∃ ops : List (Operation ω), (∀ o ∈ ops, o.isRequest = true) ∧
    (x.run b).state = b.after ops ∧ Effect.outputs (x.run b).effects = []

namespace Action

/-- An action that leaves the bus alone and puts nothing out is a run of no operations. -/
theorem IsRun.of_idle {x : Action (LocalBus ω) ε ω α} (hstate : ∀ b, (x.run b).state = b)
    (heffects : ∀ b, Effect.outputs (x.run b).effects = []) : x.IsRun :=
  fun b => ⟨[], by simp, hstate b, heffects b⟩

/-- An action that does what one request does is a run. -/
theorem IsRun.of_request {x : Action (LocalBus ω) ε ω α} (o : Operation ω)
    (ho : o.isRequest = true) (hstate : ∀ b, (x.run b).state = o.next b)
    (heffects : ∀ b, Effect.outputs (x.run b).effects = []) : x.IsRun :=
  fun b => ⟨[o], by simpa using ho, hstate b, heffects b⟩

theorem isRun_pure (a : α) : (Pure.pure a : Action (LocalBus ω) ε ω α).IsRun :=
  .of_idle (fun _ => rfl) fun _ => rfl

theorem isRun_log {level : Log.Level} {source : Log.Source} {text : String} :
    (Action.log level source text : Action (LocalBus ω) ε ω Unit).IsRun :=
  .of_idle (fun _ => rfl) fun _ => rfl

/-- A sequence of runs is a run. -/
theorem IsRun.bind {x : Action (LocalBus ω) ε ω α} {f : α → Action (LocalBus ω) ε ω γ}
    (hx : x.IsRun) (hf : ∀ a, (f a).IsRun) : (x >>= f).IsRun := by
  intro b
  obtain ⟨ops, hops, hstate, heffects⟩ := hx b
  cases hresult : (x.run b).result with
  | error e =>
    rw [run_bind_of_error f hresult]
    exact ⟨ops, hops, hstate, heffects⟩
  | crash c =>
    rw [run_bind_of_crash f hresult]
    exact ⟨ops, hops, hstate, heffects⟩
  | ok a =>
    obtain ⟨ops', hops', hstate', heffects'⟩ := hf a (x.run b).state
    rw [run_bind_of_ok f hresult]
    refine ⟨ops ++ ops', ?_, ?_, ?_⟩
    · intro o ho
      exact (List.mem_append.mp ho).elim (hops o) (hops' o)
    · rw [LocalBus.after_append, ← hstate]
      exact hstate'
    · rw [Effect.outputs_append, heffects, heffects', List.append_nil]

end Action

/-! ## Requests -/

namespace Bus

variable {β : Type}

/-- How a call ends whose reply is read, on any bus. -/
def reading (bus : Bus β ω) (read : List Value → Except Mismatch α) :
    Ending ClientError (List Value) → Ending ClientError α
  | .ok values => .ofExcept ((read values).mapError bus.badReply)
  | .error e => .error e
  | .crash c => .crash c

/-- A request is a call whose reply is read. Reading changes nothing. -/
theorem run_request (bus : Bus β ω) (read : List Value → Except Mismatch α) (c : MethodCall)
    (s : β) :
    (bus.request read c).run s =
      ⟨bus.reading read ((bus.call c).run s).result, ((bus.call c).run s).effects,
        ((bus.call c).run s).state⟩ := by
  unfold request
  cases hcall : ((bus.call c).run s).result with
  | ok values => rw [Action.run_bind_of_ok _ hcall, Action.ofExcept, List.append_nil]; rfl
  | error e => rw [Action.run_bind_of_error _ hcall]; rfl
  | crash k => rw [Action.run_bind_of_crash _ hcall]; rfl

end Bus

/-- Making a client is one call whose reply is a path. -/
theorem Client.run_create {β : Type} (bus : Bus β ω) (device : String) (s : β) :
    ((create bus device).run s).result =
        bus.reading (Reply.one ObjectPath)
          ((bus.call (controlCall "Create" device)).run s).result ∧
      ((create bus device).run s).state =
        ((bus.call (controlCall "Create" device)).run s).state := by
  have hpassing := Action.run_bind_of_passing
    (x := bus.request (Reply.one ObjectPath) (controlCall "Create" device))
    (f := fun path => do
      Action.log .info .control (device ++ " is " ++ path.text)
      return path)
    (fun _ _ => ⟨rfl, rfl⟩) s
  rw [bus.run_request] at hpassing
  obtain ⟨hresult, hstate⟩ := Action.run_log_bind .debug .control ("create client for " ++ device)
    (bus.request (Reply.one ObjectPath) (controlCall "Create" device) >>= fun path => do
      Action.log .info .control (device ++ " is " ++ path.text)
      return path) s
  exact ⟨hresult.trans hpassing.1, hstate.trans hpassing.2⟩

namespace LocalBus

/-- How a call ends whose reply is read. -/
def reading (read : List Value → Except Mismatch α) :
    Ending ClientError (List Value) → Ending ClientError α
  | .ok values => .ofExcept ((read values).mapError .badArguments)
  | .error e => .error e
  | .crash c => .crash c

theorem reading_bus (read : List Value → Except Mismatch α)
    (r : Ending ClientError (List Value)) : (bus (ω := ω)).reading read r = reading read r := by
  cases r <;> rfl

theorem run_request (read : List Value → Except Mismatch α) (c : MethodCall) (b : LocalBus ω) :
    (bus.request read c).run b =
      ⟨reading read (b.daemon.serve c).ending, [], (Operation.call c).next b⟩ := by
  have hcall : bus.call c = LocalBus.call (ω := ω) c := rfl
  rw [Bus.run_request, reading_bus, hcall, run_call, next_call]

theorem isRun_request {read : List Value → Except Mismatch α} {c : MethodCall} :
    (bus.request (ω := ω) read c).IsRun :=
  .of_request (.call c) rfl (fun b => by rw [run_request]) fun b => by rw [run_request]; rfl

theorem isRun_subscribe {path? : Option ObjectPath} {kind : SignalKind}
    {handler : Handler kind.Payload ω} : (bus.subscribe path? kind handler).IsRun :=
  .of_request (.subscribe path? kind handler) rfl (fun _ => rfl) fun _ => rfl

/-- Subscribing first lets a sequence go on under the new token, on the bus with the
subscription. -/
theorem run_subscribe_bind (path? : Option ObjectPath) (kind : SignalKind)
    (handler : Handler kind.Payload ω) (f : Token → Action (LocalBus ω) ClientError ω α)
    (b : LocalBus ω) :
    ((bus.subscribe path? kind handler >>= f).run b).result =
        ((f ⟨b.nextToken⟩).run ((Operation.subscribe path? kind handler).next b)).result ∧
      ((bus.subscribe path? kind handler >>= f).run b).state =
        ((f ⟨b.nextToken⟩).run ((Operation.subscribe path? kind handler).next b)).state :=
  ⟨rfl, rfl⟩

/-- The call that makes a client for a device. -/
def createCall (device : String) : MethodCall :=
  Client.controlCall "Create" device

/-- The call that releases a client for a device. -/
def shutdownCall (device : String) : MethodCall :=
  Client.controlCall "Shutdown" device

/-- The call that starts a device. -/
def startCall (path : ObjectPath) : MethodCall :=
  Client.query path .device "Start"

theorem run_create (device : String) (b : LocalBus ω) :
    ((Client.create bus device).run b).result =
        reading (Reply.one ObjectPath) (b.daemon.serve (createCall device)).ending ∧
      ((Client.create bus device).run b).state = (Operation.call (createCall device)).next b := by
  have hcall : bus.call (createCall device) = LocalBus.call (ω := ω) (createCall device) := rfl
  have hcreate := Client.run_create (bus (ω := ω)) device b
  rwa [reading_bus, ← createCall, hcall, run_call, ← next_call] at hcreate

theorem run_shutdown (device : String) (b : LocalBus ω) :
    ((Client.shutdown bus device).run b).result =
        reading Reply.unit (b.daemon.serve (shutdownCall device)).ending ∧
      ((Client.shutdown bus device).run b).state =
        (Operation.call (shutdownCall device)).next b := by
  unfold Client.shutdown shutdownCall
  have hlog := Action.run_log_bind .debug .control ("shutdown client for " ++ device)
    (bus.request Reply.unit (Client.controlCall "Shutdown" device)) b
  rw [run_request] at hlog
  exact hlog

theorem run_start (path : ObjectPath) (b : LocalBus ω) :
    ((Client.start bus path).run b).result =
        reading Reply.unit (b.daemon.serve (startCall path)).ending ∧
      ((Client.start bus path).run b).state = (Operation.call (startCall path)).next b := by
  unfold Client.start startCall
  have hlog := Action.run_log_bind .debug .device ("start " ++ path.text)
    (bus.request Reply.unit (Client.query path .device "Start")) b
  rw [run_request] at hlog
  exact hlog

theorem isRun_create (device : String) : (Client.create (ω := ω) bus device).IsRun :=
  Action.isRun_log.bind fun _ => isRun_request.bind fun _ =>
    Action.isRun_log.bind fun _ => Action.isRun_pure _

theorem isRun_shutdown (device : String) : (Client.shutdown (ω := ω) bus device).IsRun :=
  Action.isRun_log.bind fun _ => isRun_request

theorem isRun_start (path : ObjectPath) : (Client.start (ω := ω) bus path).IsRun :=
  Action.isRun_log.bind fun _ => isRun_request

end LocalBus

end Positioning
