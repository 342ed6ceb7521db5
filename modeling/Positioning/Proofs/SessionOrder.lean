import Positioning.Proofs.Bus.Observed
import Positioning.Tool.Run

/-!
# The order of sessions

A session that watches a device makes a client, listens at the path that it is given, and starts the
device at that path, in this order, and goes no further once something fails. This holds on every
bus: whatever the bus answers, and wherever it fails or crashes.

## Main definitions

- `Session.follow` is a session with any subscriptions; `Session.plan` lists its requests.
- `Session.Ordered` says what is seen of a session, and how the session ends.

## Main statements

- `Session.carriesOut_listening`: what a session does that has a client.
- `Session.follow_ordered`: what a session does.
- `Session.sessions_ordered`: the sessions of the tools are ordered, and monitoring calls nothing.
-/

namespace Positioning.Session

open Wire

variable {β ω : Type}

/-- What a session listens to, with what it does for it. -/
abbrev Ears (ω : Type) : Type :=
  List ((kind : SignalKind) × Handler kind.Payload ω)

/-- What a session does that has a client: it listens, and starts the device. -/
def listening (bus : Bus β ω) (path : ObjectPath) :
    Ears ω → Action β ClientError ω ObjectPath
  | [] => do
    Client.start bus path
    return path
  | ⟨kind, handler⟩ :: ears => do
    let _ ← bus.subscribe (some path) kind handler
    listening bus path ears

/-- A session that watches a device. -/
def follow (bus : Bus β ω) (device : String) (ears : Ears ω) :
    Action β ClientError ω ObjectPath := do
  let path ← Client.create bus device
  listening bus path ears

/-- The requests of a session that has a client. -/
def planAt (path : ObjectPath) (kinds : List SignalKind) : List Request :=
  kinds.map (fun kind => .subscribe ⟨some path, kind⟩) ++
    [.call (Client.query path .device "Start")]

/-- The requests of a session, when it is given a path. -/
def plan (device : String) (path : ObjectPath) (kinds : List SignalKind) : List Request :=
  .call (Client.controlCall "Create" device) :: planAt path kinds

/-- What is seen of a session, and how it ends. Its requests follow the plan for the path that it is
given by the first of them. It gives that path when the plan is complete; otherwise it fails as the
last request does, in the words of the tools. It starts nothing but the device at that path, and
that only when all before has passed. -/
structure Ordered (bus : Bus β ω) (s : β) (device : String) (kinds : List SignalKind)
    (seen : Action (Observed β) ClientError ω ObjectPath)
    (session : Action β ClientError ω ObjectPath) (path : ObjectPath) (steps : List Step)
    (r : Ending ClientError Unit) : Prop where
  isSeen : seen.IsSeen session s steps
  follows : bus.Follows (plan device path kinds) steps r
  ends : ((session.mapError ToolError.client).run s).result =
    (r.map fun _ => path).mapError .client
  given : ∀ values,
    steps.head? = some ⟨.call (Client.controlCall "Create" device), .ok values⟩ →
      ∀ p, Reply.one ObjectPath values = .ok p → p = path
  starts : ∀ (i : Nat) (step : Step) (c : MethodCall), steps[i]? = some step →
    step.request = .call c → c.method = "Start" →
      i = kinds.length + 1 ∧ c = Client.query path .device "Start" ∧
        ∀ earlier ∈ steps.take i, bus.verdict earlier = .ok ()

/-- A session ends as its last request does. -/
theorem Ordered.result_eq {bus : Bus β ω} {s : β} {device : String} {kinds : List SignalKind}
    {seen : Action (Observed β) ClientError ω ObjectPath}
    {session : Action β ClientError ω ObjectPath} {path : ObjectPath} {steps : List Step}
    {r : Ending ClientError Unit} (h : Ordered bus s device kinds seen session path steps r) :
    (session.run s).result = r.map fun _ => path := by
  have hends : (session.run s).result.mapError ToolError.client =
      (r.map fun _ => path).mapError ToolError.client := h.ends
  cases hresult : (session.run s).result <;> cases r <;>
    simp_all [Ending.mapError, Ending.map]

/-! ## Making a client -/

/-- The step in which a client is made. -/
def creation (bus : Bus β ω) (device : String) (s : β) : Step :=
  ⟨.call (Client.controlCall "Create" device),
    ((bus.call (Client.controlCall "Create" device)).run s).result⟩

theorem isSeen_create (bus : Bus β ω) (device : String) (s : β) :
    (Client.create bus.observed device).IsSeen (Client.create bus device) s
      [creation bus device s] :=
  ((Action.isSeen_request bus (Reply.one ObjectPath) _ s).bind_of_unseen fun path t =>
    (Action.isSeen_pure path t).log_bind).log_bind

theorem verdict_creation (bus : Bus β ω) (device : String) (s : β) :
    bus.verdict (creation bus device s) = ((Client.create bus device).run s).result.void := by
  rw [creation, bus.verdict_create rfl, (Client.run_create bus device s).1]

/-- A path that the reply names is what making the client gives. -/
theorem result_of_creation {bus : Bus β ω} {device : String} {s : β} {values : List Value}
    {p : ObjectPath}
    (hstep : creation bus device s = ⟨.call (Client.controlCall "Create" device), .ok values⟩)
    (hread : Reply.one ObjectPath values = .ok p) :
    ((Client.create bus device).run s).result = .ok p :=
  ((Client.run_create bus device s).1).trans (bus.reading_of_step hstep hread)

/-! ## What sessions do -/

/-- A session that has a client listens and starts the device, up to what fails. -/
theorem carriesOut_listening (bus : Bus β ω) (path : ObjectPath) (ears : Ears ω) (s : β) :
    Action.CarriesOut bus (listening bus.observed path ears) (listening bus path ears) s
      (planAt path (ears.map Sigma.fst)) := by
  induction ears generalizing s with
  | nil =>
    have hstart : Action.CarriesOut bus (Client.start bus.observed path) (Client.start bus path) s
        [.call (Client.query path .device "Start")] :=
      (Action.carriesOut_request bus (by show "Start" ≠ "Create"; decide) s).log_bind
    exact hstart.bind fun _ _ => Action.carriesOut_pure path _
  | cons ear ears ih =>
    exact (Action.carriesOut_subscribe bus (some path) ear.1 ear.2 s).bind fun _ _ => ih _

/-- A session that has a client gives the path of the client, if anything. -/
theorem eq_of_listening {bus : Bus β ω} {path p : ObjectPath} {ears : Ears ω} {s : β}
    (h : ((listening bus path ears).run s).result = .ok p) : p = path := by
  induction ears generalizing s with
  | nil =>
    obtain ⟨_, _, hgives⟩ := Action.ok_of_run_bind h
    exact (Ending.ok.inj hgives).symm
  | cons ear ears ih =>
    obtain ⟨_, _, hrest⟩ := Action.ok_of_run_bind h
    exact ih hrest

/-- What is called in a plan is called in its first or in its last request. -/
theorem call_of_plan {device : String} {path : ObjectPath} {kinds : List SignalKind} {i : Nat}
    {c : MethodCall} (h : (plan device path kinds)[i]? = some (.call c)) :
    (i = 0 ∧ c = Client.controlCall "Create" device) ∨
      (i = kinds.length + 1 ∧ c = Client.query path .device "Start") := by
  cases i with
  | zero =>
    rw [plan, List.getElem?_cons_zero] at h
    exact .inl ⟨rfl, (Request.call.inj (Option.some.inj h)).symm⟩
  | succ i =>
    rw [plan, List.getElem?_cons_succ, planAt] at h
    rcases Nat.lt_or_ge i kinds.length with hlt | hge
    · -- Between the two there are only subscriptions.
      rw [List.getElem?_append_left (by rwa [List.length_map]), List.getElem?_map,
        List.getElem?_eq_getElem hlt] at h
      cases h
    · rw [List.getElem?_append_right (by rwa [List.length_map]), List.length_map,
        List.getElem?_singleton] at h
      split at h
      · next hzero =>
        refine .inr ⟨by omega, (Request.call.inj (Option.some.inj h)).symm⟩
      · cases h

/-- Steps that follow the plan of a session start a device in the last place only. -/
theorem starts_of_follows {bus : Bus β ω} {device : String} {path : ObjectPath}
    {kinds : List SignalKind} {steps : List Step} {r : Ending ClientError Unit}
    (h : bus.Follows (plan device path kinds) steps r) {i : Nat} {step : Step} {c : MethodCall}
    (hi : steps[i]? = some step) (hc : step.request = .call c) (hstart : c.method = "Start") :
    i = kinds.length + 1 ∧ c = Client.query path .device "Start" ∧
      ∀ earlier ∈ steps.take i, bus.verdict earlier = .ok () := by
  obtain ⟨hplan, hearlier⟩ := h.at_index hi
  rw [hc] at hplan
  rcases call_of_plan hplan with ⟨_, rfl⟩ | ⟨hlast, hpath⟩
  · exact absurd hstart (by show "Create" ≠ "Start"; decide)
  · exact ⟨hlast, hpath, hearlier⟩

/-- A session without a client asks for nothing else, whatever path the plan is for. -/
theorem ordered_of_refused {bus : Bus β ω} {s : β} {device : String} (ears : Ears ω)
    (hstop : ∀ path, ((Client.create bus device).run s).result ≠ .ok path) :
    Ordered bus s device (ears.map Sigma.fst) (follow bus.observed device ears)
      (follow bus device ears) .root [creation bus device s]
      (bus.verdict (creation bus device s)) := by
  have hfails : bus.verdict (creation bus device s) ≠ .ok () := by
    rw [verdict_creation]
    intro hok
    obtain ⟨path, hpath⟩ := Ending.void_eq_ok_iff.mp hok
    exact hstop path hpath
  have hfollows : bus.Follows (plan device .root (ears.map Sigma.fst)) [creation bus device s]
      (bus.verdict (creation bus device s)) := (Bus.CarriesOut.stopped hfails).follows
  have hvoid : ((follow bus device ears).run s).result.void =
      bus.verdict (creation bus device s) :=
    (Action.void_bind_of_stopped hstop).trans (verdict_creation bus device s).symm
  refine ⟨(isSeen_create bus device s).bind_of_stopped hstop, hfollows, ?_, ?_, ?_⟩
  · rw [← hvoid, Ending.map_void]
    · rfl
    · intro p hp
      obtain ⟨path, hpath, _⟩ := Action.ok_of_run_bind hp
      exact absurd hpath (hstop path)
  · intro values hhead p hread
    exact absurd (result_of_creation (Option.some.inj hhead) hread) (hstop p)
  · intro i step c hi hc hstart
    exact starts_of_follows hfollows hi hc hstart

/-- A session with a client goes on with the plan for its path. -/
theorem ordered_of_created {bus : Bus β ω} {s : β} {device : String} {path : ObjectPath}
    (ears : Ears ω) (hpath : ((Client.create bus device).run s).result = .ok path) :
    ∃ steps, Ordered bus s device (ears.map Sigma.fst) (follow bus.observed device ears)
      (follow bus device ears) path (creation bus device s :: steps)
      ((follow bus device ears).run s).result.void := by
  obtain ⟨steps, hsteps, hcarries⟩ :=
    carriesOut_listening bus path ears ((Client.create bus device).run s).state
  have hrest : ((follow bus device ears).run s).result =
      ((listening bus path ears).run ((Client.create bus device).run s).state).result := by
    unfold follow
    rw [Action.run_bind_of_ok _ hpath]
  have hpassed : bus.verdict (creation bus device s) = .ok () := by
    rw [verdict_creation, hpath]
    rfl
  rw [← hrest] at hcarries
  have hfollows : bus.Follows (plan device path (ears.map Sigma.fst))
      (creation bus device s :: steps) ((follow bus device ears).run s).result.void :=
    (Bus.CarriesOut.passed hpassed hcarries).follows
  refine ⟨steps, (isSeen_create bus device s).bind_of_ok hpath hsteps, hfollows, ?_, ?_, ?_⟩
  · rw [Ending.map_void fun p hp => eq_of_listening (hrest.symm.trans hp)]
    rfl
  · intro values hhead p hread
    have hgiven := result_of_creation (Option.some.inj hhead) hread
    exact Ending.ok.inj (hgiven.symm.trans hpath)
  · intro i step c hi hc hstart
    exact starts_of_follows hfollows hi hc hstart

/-- On every bus a session is ordered. -/
theorem follow_ordered (bus : Bus β ω) (s : β) (device : String) (ears : Ears ω) :
    ∃ path steps r, Ordered bus s device (ears.map Sigma.fst) (follow bus.observed device ears)
      (follow bus device ears) path steps r := by
  by_cases hstop : ∀ path, ((Client.create bus device).run s).result ≠ .ok path
  · exact ⟨_, _, _, ordered_of_refused ears hstop⟩
  · obtain ⟨path, hpath⟩ := not_forall_not.mp hstop
    obtain ⟨steps, hordered⟩ := ordered_of_created ears hpath
    exact ⟨path, _, _, hordered⟩

/-! ## The sessions -/

/-- Monitoring listens to positions and courses from everywhere. -/
theorem carriesOut_monitor (bus : Bus β ω) (out : String → ω) (s : β) :
    Action.CarriesOut bus (monitor bus.observed out) (monitor bus out) s
      [.subscribe ⟨none, .positionChanged⟩, .subscribe ⟨none, .courseChanged⟩] :=
  (Action.carriesOut_subscribe bus none .positionChanged _ s).bind fun _ _ =>
    (Action.carriesOut_subscribe bus none .courseChanged _ _).bind fun _ _ =>
      Action.carriesOut_pure () _

theorem watchSatellites_ordered (bus : Bus β ω) (s : β) (out : String → ω) (device : String) :
    ∃ path steps r, Ordered bus s device [.satellitesChanged]
      (watchSatellites bus.observed out device) (watchSatellites bus out device) path steps r :=
  follow_ordered bus s device
    [⟨.satellitesChanged, .forEach fun view => [.output (out (Report.satellites view))]⟩]

/-- **Sessions are ordered.** Whatever a bus answers, and wherever it fails, the sessions that watch
a device ask it for a client, for the subscriptions at the path of the client and for the start of
the device there, each only after all before has passed, and end with the path or with the failure
of the last request. Monitoring asks for its two subscriptions in the same way and calls nothing. -/
theorem sessions_ordered (bus : Bus β ω) (s : β) (out : String → ω) (device : String) :
    (∃ path steps r, Ordered bus s device [.positionChanged]
      (watchPosition bus.observed out device) (watchPosition bus out device) path steps r) ∧
    (∃ path steps r, Ordered bus s device [.positionChanged, .courseChanged]
      (watchTrack bus.observed out device) (watchTrack bus out device) path steps r) ∧
    (∃ path steps r, Ordered bus s device [.satellitesChanged]
      (watchSatellites bus.observed out device) (watchSatellites bus out device) path steps r) ∧
    ∃ steps, (monitor bus.observed out).IsSeen (monitor bus out) s steps ∧
      bus.Follows [.subscribe ⟨none, .positionChanged⟩, .subscribe ⟨none, .courseChanged⟩] steps
        ((monitor bus out).run s).result ∧
      ∀ step ∈ steps, ∀ c, step.request ≠ .call c := by
  refine ⟨?_, ?_, ?_, ?_⟩
  · exact follow_ordered bus s device
      [⟨.positionChanged, .forEach fun p => [.output (out (Report.position (.ofSignal p)))]⟩]
  · exact follow_ordered bus s device
      [⟨.positionChanged, .forEach fun p => [.output (out (Report.position (.ofSignal p)))]⟩,
        ⟨.courseChanged, .forEach fun c => [.output (out (Report.course (.ofSignal c)))]⟩]
  · exact watchSatellites_ordered bus s out device
  · obtain ⟨steps, hseen, hcarries⟩ := carriesOut_monitor bus out s
    rw [Ending.void_unit] at hcarries
    refine ⟨steps, hseen, hcarries.follows, ?_⟩
    intro step hstep c hc
    have hplanned := hcarries.follows.mem_plan hstep
    rw [hc] at hplanned
    simp at hplanned

end Positioning.Session
