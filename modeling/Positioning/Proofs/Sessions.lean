import Positioning.Proofs.Bus.Clients
import Positioning.Proofs.Bus.Listeners
import Positioning.Session

/-!
# Sessions

A session that watches a device makes a client for it, lets printers listen and starts the device.
Where one of its calls comes to nothing it goes no further. Once it has started its device, it puts
out one text for each message that one of its printers reads, in the order in which the messages
were queued, and nothing else. Nothing that waits in the queue when the session returns is lost, and
nothing that is queued later; whatever else happens on the bus has no part in it.

## Main definitions

- `LocalBus.givenBetween` tells the tokens that were given between two states.
- `Action.Prints` says that an action makes printers that print for ever.
- `Session.watch` is a session that watches a device with given printers; `Session.watchEnding` is
  how it ends.
- `Session.positionsOf` and its siblings are the printers of the sessions.

## Main statements

- `Session.run_watch`: how a session ends, and the bus that it leaves.
- `Session.sessions_print`: every session prints what its printers print.
-/

namespace Positioning

variable {ω α : Type}

/-! ## Printers on the bus -/

namespace Printer

/-- The operation that lets a printer listen. -/
def subscribe (out : String → ω) (p : Printer) : Operation ω :=
  .subscribe p.rule.path? p.rule.kind (.forEach (p.listener out).respond)

/-- The texts of several printers for a message. -/
def linesOf (ps : List Printer) (m : Message) : List String :=
  ps.flatMap fun p => p.lines m

/-- A printer has no text for a message with the name of another kind. -/
theorem lines_of_member_ne {p : Printer} {m : Message} (h : m.member ≠ p.rule.kind.member) :
    p.lines m = [] := by
  unfold lines
  cases hread : p.rule.read? m with
  | none => rfl
  | some payload => exact absurd (MatchRule.read?_eq_some_iff.mp hread).2.2.1 h

/-- Printers of different kinds have at most one text for a message. -/
theorem length_linesOf_le {ps : List Printer}
    (h : ps.Pairwise fun p q => p.rule.kind.member ≠ q.rule.kind.member) (m : Message) :
    (linesOf ps m).length ≤ 1 := by
  induction h with
  | nil => exact Nat.zero_le _
  | @cons p ps hne _ ih =>
    rw [linesOf, List.flatMap_cons]
    by_cases hmember : m.member = p.rule.kind.member
    · -- The first printer may have a text; the others are of other kinds.
      have hothers : (ps.flatMap fun q => q.lines m) = [] := by
        refine List.flatMap_eq_nil_iff.mpr fun q hq => lines_of_member_ne ?_
        rw [hmember]
        exact hne q hq
      rw [hothers, List.append_nil, lines]
      cases p.rule.read? m <;> simp
    · rw [lines_of_member_ne hmember, List.nil_append]
      exact ih

end Printer

namespace LocalBus

/-- The tokens that were given between two states of a bus. -/
def givenBetween (b b' : LocalBus ω) (t : Token) : Bool :=
  b.nextToken ≤ t.id && t.id < b'.nextToken

/-- Printers that begin to listen stand behind the other subscriptions, under new tokens. -/
theorem subscriptions_after_subscribe (out : String → ω) (ps : List Printer) (b : LocalBus ω) :
    ∃ news, (b.after (ps.map (Printer.subscribe out))).subscriptions = b.subscriptions ++ news ∧
      List.Forall₂ Listener.StandsAs (ps.map (Printer.listener out)) news ∧
      ∀ s ∈ news, b.nextToken ≤ s.token.id := by
  induction ps generalizing b with
  | nil => exact ⟨[], (List.append_nil _).symm, List.Forall₂.nil, fun _ hs => nomatch hs⟩
  | cons p ps ih =>
    have hnext := next_subscribe p.rule.path? p.rule.kind (.forEach (p.listener out).respond) b
    obtain ⟨news, hnews, hstand, hgiven⟩ := ih ((p.subscribe out).next b)
    refine ⟨(p.listener out).subscription ⟨b.nextToken⟩ [] :: news, ?_, ?_, ?_⟩
    · refine hnews.trans ?_
      rw [Printer.subscribe, hnext, List.append_assoc]
      rfl
    · exact List.Forall₂.cons ⟨_, _, rfl⟩ hstand
    · rintro s (_ | ⟨_, hs⟩)
      · exact Nat.le_refl _
      · exact Nat.le_of_succ_le (hgiven s hs)

theorem subscriptions_after_calls (cs : List MethodCall) (b : LocalBus ω) :
    (b.after (cs.map .call)).subscriptions = b.subscriptions ∧
      (b.after (cs.map .call)).nextToken = b.nextToken := by
  induction cs generalizing b with
  | nil => exact ⟨rfl, rfl⟩
  | cons c cs ih =>
    have hnext := next_call c b
    have hrest := ih ((Operation.call c).next b)
    rw [hnext] at hrest
    rw [List.map_cons, after, hnext]
    exact hrest

/-- The subscriptions under the tokens that were given between two states are those that have come
since. -/
theorem standAs_filter_givenBetween {b b' : LocalBus ω} (hb : b.TokensOrdered)
    (hb' : b'.TokensOrdered) {ls : List (Listener ω)} {news : List (Subscription ω)}
    (hsubscriptions : b'.subscriptions = b.subscriptions ++ news)
    (hstand : List.Forall₂ Listener.StandsAs ls news)
    (hgiven : ∀ s ∈ news, b.nextToken ≤ s.token.id) :
    List.Forall₂ Listener.StandsAs ls
      (b'.subscriptions.filter fun s => givenBetween b b' s.token) := by
  have hold : b.subscriptions.filter (fun s => givenBetween b b' s.token) = [] := by
    refine List.filter_eq_nil_iff.mpr fun s hs => ?_
    have hbelow := hb.below s hs
    simp only [givenBetween, Bool.and_eq_true, decide_eq_true_eq]
    omega
  have hnew : news.filter (fun s => givenBetween b b' s.token) = news := by
    refine List.filter_eq_self.mpr fun s hs => ?_
    have hbelow := hb'.below s (hsubscriptions ▸ List.mem_append_right _ hs)
    have hfrom := hgiven s hs
    simp [givenBetween, hbelow, hfrom]
  rw [hsubscriptions, List.filter_append, hold, hnew, List.nil_append]
  exact hstand

end LocalBus

/-! ## Printing for ever -/

/-- An action makes printers that print for ever. It puts nothing out itself. Whatever is done in a
later run is done by the handlers that run in it, and if the run does not end the subscriptions of
the action, they put out their texts for what is handed on, at most one for each message, in order;
and what is handed on is what waited and what is queued, in that order, up to what still waits. -/
structure Action.Prints (x : Action (LocalBus ω) ClientError ω α) (b : LocalBus ω)
    (out : String → ω) (ps : List Printer) : Prop where
  silent : Effect.outputs (x.run b).effects = []
  once : ∀ m, (Printer.linesOf ps m).length ≤ 1
  handled : ∀ later, (moments (x.run b).state later).flatMap (fun i => i.outcome.effects) =
    Invocation.effects ((moments (x.run b).state later).flatMap Moment.invocations)
  printed : ∀ later,
    (∀ t, LocalBus.givenBetween b (x.run b).state t = true → Operation.unsubscribe t ∉ later) →
    Invocation.effects (((moments (x.run b).state later).flatMap Moment.invocations).filter
        fun i => LocalBus.givenBetween b (x.run b).state i.token) =
      (((moments (x.run b).state later).flatMap Moment.processed).flatMap
        (Printer.linesOf ps)).map fun line => .output (out line)
  complete : ∀ later,
    (x.run b).state.queue ++ (moments (x.run b).state later).flatMap Moment.queued =
      (moments (x.run b).state later).flatMap Moment.processed ++
        ((x.run b).state.after later).queue

/-- A run of requests makes its printers print, whatever calls there are before and behind its
subscriptions. -/
theorem Action.IsRun.prints {x : Action (LocalBus ω) ClientError ω α} (hrun : x.IsRun)
    {b : LocalBus ω} (hb : b.Reachable) {out : String → ω} {ps : List Printer}
    (honce : ∀ m, (Printer.linesOf ps m).length ≤ 1) (calls ends : List MethodCall)
    (hstate : (x.run b).state =
      b.after (calls.map .call ++ ps.map (Printer.subscribe out) ++ ends.map .call)) :
    x.Prints b out ps := by
  obtain ⟨news, hnews, hstand, hgiven⟩ :=
    LocalBus.subscriptions_after_subscribe out ps (b.after (calls.map .call))
  rw [(LocalBus.subscriptions_after_calls calls b).1] at hnews
  rw [(LocalBus.subscriptions_after_calls calls b).2] at hgiven
  have hreached : (x.run b).state.Reachable := hstate ▸ hb.after _
  have hsubscriptions : (x.run b).state.subscriptions = b.subscriptions ++ news := by
    rw [hstate, LocalBus.after_append, LocalBus.after_append,
      (LocalBus.subscriptions_after_calls ends _).1, hnews]
  -- From here on only the messages matter that reach the new subscriptions.
  have hown := LocalBus.standAs_filter_givenBetween hb.tokensOrdered hreached.tokensOrdered
    hsubscriptions hstand hgiven
  obtain ⟨_, _, _, hsilent⟩ := hrun b
  refine ⟨hsilent, honce, LocalBus.effects_moments _, fun later hends => ?_,
    LocalBus.queue_after _⟩
  have hlater := LocalBus.effects_of_listeners (p := LocalBus.givenBetween b (x.run b).state)
    (fun t ht => by
      simp only [LocalBus.givenBetween, Bool.and_eq_true, decide_eq_true_eq] at ht
      exact ht.2)
    hends hown
  exact hlater.1.trans (Printer.effectsInTurn_listener out ps _)

/-! ## Watching -/

namespace Session

/-- What a session does that has a client: it lets printers listen and starts the device. -/
def watching (out : String → ω) (path : ObjectPath) :
    List Printer → Action (LocalBus ω) ClientError ω ObjectPath
  | [] => do
    Client.start LocalBus.bus path
    return path
  | p :: ps => do
    let _ ← LocalBus.bus.subscribe p.rule.path? p.rule.kind (.forEach (p.listener out).respond)
    watching out path ps

/-- A session that watches a device with printers for its path. -/
def watch (out : String → ω) (device : String) (printers : ObjectPath → List Printer) :
    Action (LocalBus ω) ClientError ω ObjectPath := do
  let path ← Client.create LocalBus.bus device
  watching out path (printers path)

/-- What a session gives that starts the device at a path at last. -/
def started (path : ObjectPath) : Ending ClientError Unit → Ending ClientError ObjectPath
  | .ok _ => .ok path
  | .error e => .error e
  | .crash k => .crash k

/-- How a session ends that makes a client for a device and starts the device. -/
def watchEnding (d : Daemon) (device : String) : Ending ClientError ObjectPath :=
  match LocalBus.reading (Reply.one ObjectPath) (d.serve (LocalBus.createCall device)).ending with
  | .error e => .error e
  | .crash k => .crash k
  | .ok path =>
    started path <| LocalBus.reading Reply.unit
      ((d.serve (LocalBus.createCall device)).daemon.serve (LocalBus.startCall path)).ending

/-- A session that has a client ends as the start of the device does. -/
theorem run_watching (out : String → ω) (path : ObjectPath) (ps : List Printer) (b : LocalBus ω) :
    ((watching out path ps).run b).result = started path
        (LocalBus.reading Reply.unit (b.daemon.serve (LocalBus.startCall path)).ending) ∧
      ((watching out path ps).run b).state =
        b.after (ps.map (Printer.subscribe out) ++ [.call (LocalBus.startCall path)]) := by
  induction ps generalizing b with
  | nil =>
    obtain ⟨hresult, hstate⟩ := LocalBus.run_start path b
    unfold watching
    rw [← hresult, List.map_nil, List.nil_append, LocalBus.after, LocalBus.after, ← hstate]
    cases hstart : ((Client.start LocalBus.bus path).run b).result with
    | ok a => rw [Action.run_bind_of_ok _ hstart]; exact ⟨rfl, rfl⟩
    | error e => rw [Action.run_bind_of_error _ hstart]; exact ⟨rfl, rfl⟩
    | crash k => rw [Action.run_bind_of_crash _ hstart]; exact ⟨rfl, rfl⟩
  | cons p ps ih =>
    obtain ⟨hresult, hstate⟩ := LocalBus.run_subscribe_bind p.rule.path? p.rule.kind
      (.forEach (p.listener out).respond) (fun _ => watching out path ps) b
    obtain ⟨ihResult, ihState⟩ := ih ((p.subscribe out).next b)
    exact ⟨hresult.trans ihResult, hstate.trans ihState⟩

/-- A session ends as its calls do. If it gives a path, it has made a client, let the printers for
the path listen, and started the device. -/
theorem run_watch (out : String → ω) (device : String) (printers : ObjectPath → List Printer)
    (b : LocalBus ω) :
    ((watch out device printers).run b).result = watchEnding b.daemon device ∧
      ∀ path, ((watch out device printers).run b).result = .ok path →
        ((watch out device printers).run b).state =
          b.after (.call (LocalBus.createCall device) ::
            ((printers path).map (Printer.subscribe out) ++
              [.call (LocalBus.startCall path)])) := by
  obtain ⟨hresult, hstate⟩ := LocalBus.run_create device b
  have hdaemon : ((Client.create LocalBus.bus device).run b).state.daemon =
      (b.daemon.serve (LocalBus.createCall device)).daemon := by
    rw [hstate, LocalBus.next_call]
  unfold watch watchEnding
  rw [← hresult, ← hdaemon]
  cases hcreate : ((Client.create LocalBus.bus device).run b).result with
  | ok path =>
    rw [Action.run_bind_of_ok _ hcreate]
    obtain ⟨hrestResult, hrestState⟩ :=
      run_watching out path (printers path) ((Client.create LocalBus.bus device).run b).state
    refine ⟨hrestResult, fun path' hpath' => ?_⟩
    -- The path that is given in the end is the one that the client was made for.
    have hsame : path = path' := by
      have hstarted := hrestResult.symm.trans hpath'
      unfold started at hstarted
      split at hstarted
      · exact Ending.ok.inj hstarted
      · cases hstarted
      · cases hstarted
    rw [← hsame, LocalBus.after, ← hstate]
    exact hrestState
  | error e =>
    rw [Action.run_bind_of_error _ hcreate]
    exact ⟨rfl, fun _ h => by cases h⟩
  | crash k =>
    rw [Action.run_bind_of_crash _ hcreate]
    exact ⟨rfl, fun _ h => by cases h⟩

theorem isRun_watch (out : String → ω) (device : String) (printers : ObjectPath → List Printer) :
    (watch out device printers).IsRun := by
  refine (LocalBus.isRun_create device).bind fun path => ?_
  induction printers path with
  | nil => exact (LocalBus.isRun_start path).bind fun _ => Action.isRun_pure path
  | cons p ps ih => exact LocalBus.isRun_subscribe.bind fun _ => ih

/-- A session that gives a path prints for ever. -/
theorem prints_watch {b : LocalBus ω} (hb : b.Reachable) (out : String → ω) (device : String)
    {printers : ObjectPath → List Printer} {path : ObjectPath}
    (hpath : ((watch out device printers).run b).result = .ok path)
    (hkinds : (printers path).Pairwise fun p q => p.rule.kind.member ≠ q.rule.kind.member) :
    (watch out device printers).Prints b out (printers path) :=
  (isRun_watch out device printers).prints hb (Printer.length_linesOf_le hkinds)
    [LocalBus.createCall device] [LocalBus.startCall path]
    ((run_watch out device printers b).2 path hpath)

/-! ## The sessions -/

/-- Prints the line of every position from a path. -/
def positionsOf (path : ObjectPath) : Printer :=
  ⟨⟨some path, .positionChanged⟩, fun s : PositionChanged => Report.position (.ofSignal s)⟩

def coursesOf (path : ObjectPath) : Printer :=
  ⟨⟨some path, .courseChanged⟩, fun s : CourseChanged => Report.course (.ofSignal s)⟩

/-- Prints the block of every set of satellites from a path. -/
def satellitesOf (path : ObjectPath) : Printer :=
  ⟨⟨some path, .satellitesChanged⟩, Report.satellites⟩

/-- Prints the numbers of every position, wherever it comes from. -/
def rawPositions : Printer :=
  ⟨⟨none, .positionChanged⟩, Report.rawPosition⟩

def rawCourses : Printer :=
  ⟨⟨none, .courseChanged⟩, Report.rawCourse⟩

variable (out : String → ω) (device : String)

/-- Watching positions is watching with one printer. -/
theorem watchPosition_eq :
    watchPosition LocalBus.bus out device = watch out device fun path => [positionsOf path] :=
  rfl

theorem watchTrack_eq :
    watchTrack LocalBus.bus out device =
      watch out device fun path => [positionsOf path, coursesOf path] :=
  rfl

theorem watchSatellites_eq :
    watchSatellites LocalBus.bus out device = watch out device fun path => [satellitesOf path] :=
  rfl

theorem isRun_monitor : (monitor LocalBus.bus out).IsRun :=
  LocalBus.isRun_subscribe.bind fun _ => LocalBus.isRun_subscribe.bind fun _ =>
    Action.isRun_pure ()

theorem isRun_listDevices : (listDevices (ω := ω) LocalBus.bus).IsRun :=
  LocalBus.isRun_request.bind fun _ => Action.isRun_log.bind fun _ => Action.isRun_pure _

/-- **Sessions print.** In every state that is reached, a session that watches a device and gives a
path prints for ever the lines of that path: a line for each position, for each position and each
course, or a block for each set of satellites. Monitoring always succeeds, and prints for ever the
numbers of positions and courses from everywhere. Sessions are runs of requests, and so are the list
of the devices and the release of a client; so the later run in which a session prints may hold any
of them. -/
theorem sessions_print {b : LocalBus ω} (hb : b.Reachable) :
    (∀ path, ((watchPosition LocalBus.bus out device).run b).result = .ok path →
      (watchPosition LocalBus.bus out device).Prints b out [positionsOf path]) ∧
    (∀ path, ((watchTrack LocalBus.bus out device).run b).result = .ok path →
      (watchTrack LocalBus.bus out device).Prints b out [positionsOf path, coursesOf path]) ∧
    (∀ path, ((watchSatellites LocalBus.bus out device).run b).result = .ok path →
      (watchSatellites LocalBus.bus out device).Prints b out [satellitesOf path]) ∧
    ((monitor LocalBus.bus out).run b).result = .ok () ∧
    (monitor LocalBus.bus out).Prints b out [rawPositions, rawCourses] ∧
    (watchPosition LocalBus.bus out device).IsRun ∧ (watchTrack LocalBus.bus out device).IsRun ∧
    (watchSatellites LocalBus.bus out device).IsRun ∧ (monitor LocalBus.bus out).IsRun ∧
    (listDevices (ω := ω) LocalBus.bus).IsRun ∧
    (Client.shutdown (ω := ω) LocalBus.bus device).IsRun := by
  have hne : SignalKind.positionChanged.member ≠ SignalKind.courseChanged.member := by decide
  rw [watchPosition_eq, watchTrack_eq, watchSatellites_eq]
  refine ⟨fun path hpath => ?_, fun path hpath => ?_, fun path hpath => ?_, rfl, ?_,
    isRun_watch _ _ _, isRun_watch _ _ _, isRun_watch _ _ _, isRun_monitor out, isRun_listDevices,
    LocalBus.isRun_shutdown device⟩
  · exact prints_watch hb out device hpath (List.pairwise_singleton _ _)
  · exact prints_watch hb out device hpath (List.pairwise_pair.mpr hne)
  · exact prints_watch hb out device hpath (List.pairwise_singleton _ _)
  · exact (isRun_monitor out).prints hb
      (Printer.length_linesOf_le (List.pairwise_pair.mpr hne)) [] [] rfl

/-- A bus with one device, from which a course waits. -/
def courseWaiting : LocalBus String :=
  LocalBus.initial.after
    [.addDevice "gps", .emitFor "gps" .courseChanged (⟨1, 5, ⟨0⟩, ⟨0⟩, ⟨0⟩⟩ : CourseChanged)]

/-- A position of the device, and one from elsewhere, before everything is handed on. -/
def positionsFollowing : List (Operation String) :=
  [.emitFor "gps" .positionChanged (⟨6, 7, ⟨0⟩, ⟨0⟩, ⟨0⟩⟩ : PositionChanged),
    .emit (SignalKind.positionChanged.message .root (⟨7, 8, ⟨0⟩, ⟨0⟩, ⟨0⟩⟩ : PositionChanged)),
    .drain]

/-- The track of the device shows the course that waited and the position of the device. -/
theorem sessions_print_courseWaiting :
    let session := watchTrack LocalBus.bus id "gps"
    let later := moments (session.run courseWaiting).state positionsFollowing
    courseWaiting.Reachable ∧ (∃ path, (session.run courseWaiting).result = .ok path) ∧
      Effect.outputs (Invocation.effects ((later.flatMap Moment.invocations).filter fun i =>
          LocalBus.givenBetween courseWaiting (session.run courseWaiting).state i.token)) =
        ["5: 0.000000, -1.000000, -1.000000m/s", "7: -1.000000, 0.000000 (0.0m)"] ∧
      Effect.outputs (later.flatMap fun i => i.outcome.effects) =
        ["5: 0.000000, -1.000000, -1.000000m/s", "7: -1.000000, 0.000000 (0.0m)"] := by
  have hreached : courseWaiting.Reachable := LocalBus.Reachable.initial.after _
  have hprints := (sessions_print id "gps" hreached).2.1 _ rfl
  refine ⟨hreached, ⟨_, rfl⟩, ?_, ?_⟩
  · rw [hprints.printed positionsFollowing (by simp [positionsFollowing])]
    decide +kernel
  · rw [hprints.handled positionsFollowing]
    decide +kernel

end Session

end Positioning
