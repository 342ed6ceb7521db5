import Positioning.Proofs.Bus.Clients
import Positioning.Proofs.Daemon.Calls

/-!
# Refusals and replies

A call that is refused leaves everything as it was, but for the journal, which names the call with
its arguments as they were sent. A call that is answered takes effect once, whatever its caller
makes of the reply: reading comes last and changes nothing, also where it fails. A method reads the
arguments that it declares and no others.

## Main definitions

- `MethodCall.withMore` is a call with more arguments behind its own.
- `MethodCall.IsComplete` says that a call has the arguments that its method declares.

## Main statements

- `Daemon.serve_withMore`: arguments behind those that are declared do not matter.
- `LocalBus.calls_atomic`: what a call leaves, however it ends.
-/

namespace Positioning

open Wire

variable {ω : Type}

namespace Wire

theorem argument_append {α : Type} [Argument α] {arguments : List Value} {position : Nat}
    (h : position < arguments.length) (more : List Value) :
    (argument (arguments ++ more) position : Except Mismatch α) = argument arguments position := by
  unfold argument
  rw [List.getElem?_append_left h]

theorem lt_length_of_argument_eq_ok {α : Type} [Argument α] {arguments : List Value}
    {position : Nat} {a : α} (h : argument arguments position = .ok a) :
    position < arguments.length := by
  by_contra hlength
  have hnone : arguments[position]? = none := List.getElem?_eq_none (Nat.le_of_not_lt hlength)
  unfold argument at h
  rw [hnone] at h
  cases h

end Wire

/-! ## More arguments -/

namespace MethodCall

/-- The call with more arguments behind its own. -/
def withMore (c : MethodCall) (more : List Value) : MethodCall :=
  { c with arguments := c.arguments ++ more }

/-- The call has as many arguments as the method that it names declares. -/
def IsComplete (c : MethodCall) : Prop :=
  ∀ m, c.carried.names m = true → m.parameters.length ≤ c.arguments.length

end MethodCall

/-- The methods about clients declare the one argument that they read. -/
theorem Method.Does.parameters_le {d : Daemon} {path : ObjectPath} {arguments : List Value}
    {m : Method} {a : Answer} (h : m.Does d path arguments (.answered a)) :
    m.parameters.length ≤ arguments.length := by
  cases h with
  | told hm _ => cases m <;> first | exact Nat.zero_le _ | cases hm
  | created hargument _ _ => exact lt_length_of_argument_eq_ok hargument
  | released hargument _ => exact lt_length_of_argument_eq_ok hargument
  | scanned hm _ => rcases hm with rfl | rfl <;> exact Nat.zero_le _
  | switched hm _ _ _ => cases m <;> first | exact Nat.zero_le _ | cases hm

namespace Daemon

/-- Whoever was answered gave all arguments that are declared. -/
theorem isComplete_of_answered {d : Daemon} {c : MethodCall} {values : List Value}
    (h : (d.serve c).ending = .ok values) : c.IsComplete := by
  intro m hnames
  rcases d.serve_cases c with ⟨ending, hserve, hidle⟩ | ⟨_, n, r, _, hn, _, _, hdoes, hserve⟩
  · rw [hserve] at h
    exact absurd h (hidle.noAnswer m hnames values)
  · obtain rfl := MethodCall.names_unique hnames hn
    rw [hserve] at h
    cases r with
    | answered a => exact hdoes.parameters_le
    | refused f => cases h
    | crashed d' => cases h

theorem run_append {m : Method} {arguments : List Value}
    (h : m.parameters.length ≤ arguments.length) (more : List Value) (d : Daemon)
    (path : ObjectPath) (object : Object) :
    d.run path object (arguments ++ more) m = d.run path object arguments m := by
  cases m with
  | create =>
    have hfirst : (argument (arguments ++ more) 0 : Except Mismatch String) =
        argument arguments 0 := argument_append h more
    unfold run
    rw [hfirst]
  | shutdown =>
    have hfirst : (argument (arguments ++ more) 0 : Except Mismatch String) =
        argument arguments 0 := argument_append h more
    unfold run
    rw [hfirst]
  | _ => rfl

/-- A call comes to the same with more arguments than are declared. -/
theorem serve_withMore {c : MethodCall} (h : c.IsComplete) (more : List Value) (d : Daemon) :
    d.serve (c.withMore more) = d.serve c := by
  have hanswer : d.answer (c.withMore more).carried = d.answer c.carried := by
    -- The method is found without a look at the arguments; only what it runs reads them.
    have hfind : ∀ object, findMethod object (c.withMore more).carried =
        findMethod object c.carried := fun _ => rfl
    unfold answer
    simp only [hfind]
    have hinterface : (c.withMore more).carried.interface = c.carried.interface := rfl
    have hmethod : (c.withMore more).carried.method = c.carried.method := rfl
    have hpath : (c.withMore more).carried.path = c.carried.path := rfl
    rw [hinterface, hmethod, hpath]
    split
    · rfl
    · cases d.objects.get? c.carried.path with
      | none => rfl
      | some object =>
        dsimp only
        cases hfound : findMethod object c.carried with
        | error f => rfl
        | ok m =>
          dsimp only
          have hnames := (findMethod_eq_ok_iff.mp hfound).1
          have hrun := run_append (h m hnames) more d c.carried.path object
          exact if_congr Iff.rfl rfl hrun
  have hbad : (c.withMore more).badName? = c.badName? := rfl
  unfold serve
  rw [hbad, hanswer]

theorem serve_of_error {d : Daemon} {c : MethodCall} {e : ClientError}
    (h : (d.serve c).ending = .error e) :
    c.badName? = none ∧ ∃ f, d.answer c.carried = .refused f ∧
      d.serve c = ⟨.error (.fault f), [], d⟩ := by
  unfold serve at h ⊢
  cases hbad : c.badName? with
  | some bad => simp [hbad] at h
  | none =>
    cases hanswer : d.answer c.carried with
    | refused f => exact ⟨rfl, f, rfl, rfl⟩
    | crashed after => simp [hbad, hanswer] at h
    | answered a => simp [hbad, hanswer] at h

theorem serve_of_ok {d : Daemon} {c : MethodCall} {values : List Value}
    (h : (d.serve c).ending = .ok values) :
    c.badName? = none ∧ ∃ a, d.answer c.carried = .answered a ∧ a.reply = values ∧
      d.serve c = ⟨.ok values, a.signals, a.daemon⟩ := by
  unfold serve at h ⊢
  cases hbad : c.badName? with
  | some bad => simp [hbad] at h
  | none =>
    cases hanswer : d.answer c.carried with
    | refused f => simp [hbad, hanswer] at h
    | crashed after => simp [hbad, hanswer] at h
    | answered a =>
      rw [hbad, hanswer] at h
      obtain rfl := Ending.ok.inj h
      exact ⟨rfl, a, rfl, rfl, rfl⟩

end Daemon

namespace LocalBus

/-- **Calls are atomic.** A call that ends in an error is one that the daemon refused; it leaves the
bus as it was, with the call at the end of the journal. A call that is answered leaves what its
answer holds, whatever its reply is read as; a reply that does not read is an error of the caller
alone. Whoever is answered gave all arguments that the method declares, and more of them change
neither the result nor the daemon nor the queue. -/
theorem calls_atomic {α : Type} (b : LocalBus ω) (c : MethodCall)
    (read : List Value → Except Mismatch α) :
    let called := (call c).run b
    let requested := (bus.request read c).run b
    (∀ e, called.result = .error e →
      (∃ f, e = .fault f ∧ b.daemon.answer c.carried = .refused f) ∧
      requested = ⟨.error e, [], b.note (.call c)⟩) ∧
    (∀ values, called.result = .ok values →
      ∃ a, b.daemon.answer c.carried = .answered a ∧ a.reply = values ∧
        requested = ⟨.ofExcept ((read values).mapError .badArguments), [],
          { b.note (.call c) with daemon := a.daemon, queue := b.queue ++ a.signals }⟩) ∧
    requested.state = called.state ∧
    (∀ values, called.result = .ok values → c.IsComplete) ∧
    ∀ more, c.IsComplete →
      let further := (call (c.withMore more)).run b
      further.result = called.result ∧ further.state.daemon = called.state.daemon ∧
        further.state.queue = called.state.queue := by
  intro called requested
  have hcalled : called.result = (b.daemon.serve c).ending := by
    simp only [called, run_call]
  have hrequested : requested =
      ⟨reading read (b.daemon.serve c).ending, [], (Operation.call c).next b⟩ :=
    run_request read c b
  have hstate : requested.state = called.state := by
    rw [hrequested]
    rfl
  rw [hcalled]
  refine ⟨fun e he => ?_, fun values hvalues => ?_, hstate, fun values hvalues =>
    Daemon.isComplete_of_answered hvalues, fun more hcomplete => ?_⟩
  · obtain ⟨hgood, f, hanswer, hserve⟩ := Daemon.serve_of_error he
    rw [hserve] at he
    obtain rfl := Ending.error.inj he
    refine ⟨⟨f, rfl, hanswer⟩, ?_⟩
    rw [hrequested, next_call, hserve, hgood]
    simp [reading, note]
  · obtain ⟨hgood, a, hanswer, hreply, hserve⟩ := Daemon.serve_of_ok hvalues
    refine ⟨a, hanswer, hreply, ?_⟩
    rw [hrequested, next_call, hserve, hgood]
    simp [reading, note]
  · have hserve := Daemon.serve_withMore hcomplete more b.daemon
    simp only [called, run_call, hserve, and_self]

/-- A client for a device that is not there is refused. One for a device that is there is made,
though its path is read as a number, and is made in the same way with an argument too many. -/
theorem calls_atomic_createCall :
    let b : LocalBus String := LocalBus.initial.after [.addDevice "gps"]
    let made := (bus.request (Reply.one Int32) (createCall "gps")).run b
    (bus.request Reply.unit (createCall "tty")).run b =
        ⟨.error (.fault (.noSuchDevice "tty")), [], b.note (.call (createCall "tty"))⟩ ∧
      made.result = .error (.badArguments ⟨0, .int32, some .objectPath⟩) ∧
      made.state.daemon.clients = ["gps"] ∧
      ((call ((createCall "gps").withMore [.bool true])).run b).state.daemon.clients = ["gps"] := by
  intro b made
  obtain ⟨hrefused, _⟩ := calls_atomic b (createCall "tty") Reply.unit
  obtain ⟨_, hanswered, _, hcomplete, hmore⟩ :=
    calls_atomic b (createCall "gps") (Reply.one Int32)
  have hreply : ((call (createCall "gps")).run b).result =
      .ok [.objectPath (.child ['g', 'p', 's'] (List.cons_ne_nil _ _))] := rfl
  have hclients : ((call (createCall "gps")).run b).state.daemon.clients = ["gps"] := by
    decide +kernel
  obtain ⟨a, _, _, hmade⟩ := hanswered _ hreply
  have hfurther := hmore [.bool true] (hcomplete _ hreply)
  refine ⟨(hrefused _ rfl).2, congrArg Outcome.result hmade, ?_, ?_⟩
  · exact hclients
  · exact (congrArg Daemon.clients hfurther.2.1).trans hclients

end LocalBus

end Positioning
