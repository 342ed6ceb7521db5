import Positioning.Proofs.Bus.Clients

/-!
# Observed buses

What a program asks of a bus can be told without knowing the bus. An observed bus does what the bus
does, whatever that is, and keeps a list of what it was asked for and how each request ended. What
runs on it cannot tell the difference.

A plan is a list of requests. It is carried out from the front up to the first request that comes to
nothing, and that request decides how it all ends.

## Main definitions

- `Bus.observed` is the observed bus; its state is `Observed`, with a `Step` for each request.
- `Action.IsSeen` says that two actions do the same, and in which steps one of them is seen.
- `Bus.verdict` tells how a step ends for a client.
- `Bus.CarriesOut` says that steps carry out a plan, and how that ends; `Bus.Follows` says what
  can be told of such steps.

## Main statements

- `Action.IsSeen.bind_of_ok`: the steps of a sequence are those of its parts.
- `Action.CarriesOut.bind`: a sequence carries out one plan behind the other.
- `Bus.CarriesOut.follows`: which requests are made, which of them pass, and how it ends.
-/

namespace Positioning

open Wire

variable {β ω ε α γ : Type}

/-! ## Observing -/

/-- What is asked of a bus. -/
inductive Request where
  | call (c : MethodCall)
  | subscribe (rule : MatchRule)
  | unsubscribe (token : Token)
  | process

/-- What a request gives that succeeds. -/
def Request.Answer : Request → Type
  | call _ => List Value
  | subscribe _ => Token
  | unsubscribe _ => Unit
  | process => Bool

/-- A request, and how it ended. -/
structure Step where
  request : Request
  ending : Ending ClientError request.Answer

/-- The state of a bus, and what it was asked for so far. -/
structure Observed (β : Type) where
  state : β
  steps : List Step

/-- Does something that was asked for, and keeps how it ended. -/
def Observed.keep (request : Request) (x : Action β ClientError ω request.Answer) :
    Action (Observed β) ClientError ω request.Answer :=
  ⟨fun s =>
    let outcome := x.run s.state
    ⟨outcome.result, outcome.effects, outcome.state, s.steps ++ [⟨request, outcome.result⟩]⟩⟩

/-- A bus that keeps what it is asked for. -/
def Bus.observed (bus : Bus β ω) : Bus (Observed β) ω where
  call c := Observed.keep (.call c) (bus.call c)
  badReply := bus.badReply
  subscribe path? kind handler :=
    Observed.keep (.subscribe ⟨path?, kind⟩) (bus.subscribe path? kind handler)
  unsubscribe token := Observed.keep (.unsubscribe token) (bus.unsubscribe token)
  process := Observed.keep .process bus.process

/-- On an observed bus an action does what another does on the bus itself, whatever was asked for
before, and is seen to do it in some steps. -/
def Action.IsSeen (y : Action (Observed β) ε ω α) (x : Action β ε ω α) (s : β)
    (steps : List Step) : Prop :=
  ∀ past, y.run ⟨s, past⟩ =
    ⟨(x.run s).result, (x.run s).effects, (x.run s).state, past ++ steps⟩

namespace Action

theorem isSeen_keep (request : Request) (x : Action β ClientError ω request.Answer) (s : β) :
    (Observed.keep request x).IsSeen x s [⟨request, (x.run s).result⟩] :=
  fun _ => rfl

theorem isSeen_pure (a : α) (s : β) :
    (Pure.pure a : Action (Observed β) ε ω α).IsSeen (Pure.pure a) s [] :=
  fun past => by rw [List.append_nil]; rfl

theorem isSeen_ofExcept (r : Except ε α) (s : β) :
    (ofExcept r : Action (Observed β) ε ω α).IsSeen (ofExcept r) s [] :=
  fun past => by rw [List.append_nil]; rfl

theorem isSeen_log (level : Log.Level) (source : Log.Source) (text : String) (s : β) :
    (log level source text : Action (Observed β) ε ω Unit).IsSeen (log level source text) s [] :=
  fun past => by rw [List.append_nil]; rfl

namespace IsSeen

variable {y : Action (Observed β) ε ω α} {x : Action β ε ω α} {s : β} {steps more : List Step}

/-- A sequence whose first part gives a value is seen in the steps of both parts. -/
theorem bind_of_ok {g : α → Action (Observed β) ε ω γ} {f : α → Action β ε ω γ} {a : α}
    (hx : y.IsSeen x s steps) (ha : (x.run s).result = .ok a)
    (hf : (g a).IsSeen (f a) (x.run s).state more) :
    (y >>= g).IsSeen (x >>= f) s (steps ++ more) := by
  intro past
  have hy : (y.run ⟨s, past⟩).result = .ok a := by rw [hx past, ha]
  rw [run_bind_of_ok g hy, run_bind_of_ok f ha, hx past, hf (past ++ steps), List.append_assoc]

/-- A sequence whose first part gives no value is seen in the steps of that part. -/
theorem bind_of_stopped {g : α → Action (Observed β) ε ω γ} {f : α → Action β ε ω γ}
    (hx : y.IsSeen x s steps) (hstop : ∀ a, (x.run s).result ≠ .ok a) :
    (y >>= g).IsSeen (x >>= f) s steps := by
  intro past
  have hy : (y.run ⟨s, past⟩).result = (x.run s).result := by rw [hx past]
  cases hresult : (x.run s).result with
  | ok a => exact absurd hresult (hstop a)
  | error e =>
    rw [run_bind_of_error g (hy.trans hresult), run_bind_of_error f hresult, hx past]
  | crash c =>
    rw [run_bind_of_crash g (hy.trans hresult), run_bind_of_crash f hresult, hx past]

/-- Where nothing is seen of the second part, the steps are those of the first. -/
theorem bind_of_unseen {g : α → Action (Observed β) ε ω γ} {f : α → Action β ε ω γ}
    (hx : y.IsSeen x s steps) (hf : ∀ a t, (g a).IsSeen (f a) t []) :
    (y >>= g).IsSeen (x >>= f) s steps := by
  by_cases hstop : ∀ a, (x.run s).result ≠ .ok a
  · exact hx.bind_of_stopped hstop
  · obtain ⟨a, ha⟩ := not_forall_not.mp hstop
    simpa using hx.bind_of_ok ha (hf a _)

theorem log_bind {level : Log.Level} {source : Log.Source} {text : String}
    (hx : y.IsSeen x s steps) :
    (log level source text >>= fun _ => y).IsSeen (log level source text >>= fun _ => x) s steps :=
  (isSeen_log level source text s).bind_of_ok rfl hx

theorem attempt {ε' : Type} (hx : y.IsSeen x s steps) :
    (Action.attempt y : Action (Observed β) ε' ω (Except ε α)).IsSeen (Action.attempt x) s
      steps := by
  intro past
  simp only [Action.attempt, hx past]

end IsSeen

end Action

/-! ## How steps end -/

namespace Ending

/-- The same ending with something made of its value. -/
def map (f : α → γ) : Ending ε α → Ending ε γ
  | ok a => ok (f a)
  | error e => error e
  | crash c => crash c

theorem map_eq_ok_iff {f : α → γ} {r : Ending ε α} {c : γ} :
    r.map f = .ok c ↔ ∃ a, r = .ok a ∧ f a = c := by
  cases r <;> simp [map]

theorem map_eq_error_iff {f : α → γ} {r : Ending ε α} {e : ε} :
    r.map f = .error e ↔ r = .error e := by
  cases r <;> simp [map]

theorem mapError_eq_error_iff {ε' : Type} {f : ε → ε'} {r : Ending ε α} {e : ε'} :
    r.mapError f = .error e ↔ ∃ cause, r = .error cause ∧ f cause = e := by
  cases r <;> simp [mapError]

/-- How something ends of which only matters whether it succeeds. -/
def void (r : Ending ε α) : Ending ε Unit :=
  r.map fun _ => ()

@[simp] theorem void_unit (r : Ending ε Unit) : r.void = r := by
  cases r <;> rfl

theorem map_void {r : Ending ε α} {a : α} (h : ∀ b, r = .ok b → b = a) :
    (r.void.map fun _ => a) = r := by
  cases r with
  | ok b => rw [h b rfl]; rfl
  | error e => rfl
  | crash c => rfl

theorem void_eq_ok_iff {r : Ending ε α} : r.void = .ok () ↔ ∃ a, r = .ok a := by
  cases r <;> simp [void, map]

end Ending

namespace Bus

/-- How a step ends for a client: the reply to a call that makes a client has to name an object, and
no other reply is read. -/
def verdict (bus : Bus β ω) : Step → Ending ClientError Unit
  | ⟨.call c, ending⟩ =>
    if c.method = "Create" then (bus.reading (Reply.one ObjectPath) ending).void
    else bus.reading Reply.unit ending
  | ⟨.subscribe _, ending⟩ => ending.void
  | ⟨.unsubscribe _, ending⟩ => ending.void
  | ⟨.process, ending⟩ => ending.void

/-- A step in which a call gave values that read as they should. -/
theorem reading_of_step (bus : Bus β ω) {c : MethodCall}
    {ending : Ending ClientError (List Value)} {values : List Value}
    (hstep : (⟨.call c, ending⟩ : Step) = ⟨.call c, .ok values⟩)
    {read : List Value → Except Mismatch α} {a : α} (hread : read values = .ok a) :
    bus.reading read ending = .ok a := by
  obtain rfl : ending = .ok values := eq_of_heq (Step.mk.inj hstep).2
  rw [reading, hread]
  rfl

theorem verdict_create (bus : Bus β ω) {c : MethodCall} (hc : c.method = "Create")
    (ending : Ending ClientError (List Value)) :
    bus.verdict ⟨.call c, ending⟩ = (bus.reading (Reply.one ObjectPath) ending).void :=
  if_pos hc

theorem verdict_call (bus : Bus β ω) {c : MethodCall} (hc : c.method ≠ "Create")
    (ending : Ending ClientError (List Value)) :
    bus.verdict ⟨.call c, ending⟩ = bus.reading Reply.unit ending :=
  if_neg hc

/-! ## Plans -/

/-- The steps carry out the plan: they pass up to one that does not, or up to the end of the
plan. -/
inductive CarriesOut (bus : Bus β ω) :
    List Request → List Step → Ending ClientError Unit → Prop where
  | done : bus.CarriesOut [] [] (.ok ())
  | stopped {step : Step} {plan : List Request} (h : bus.verdict step ≠ .ok ()) :
    bus.CarriesOut (step.request :: plan) [step] (bus.verdict step)
  | passed {step : Step} {plan : List Request} {steps : List Step} {r : Ending ClientError Unit}
    (h : bus.verdict step = .ok ()) (rest : bus.CarriesOut plan steps r) :
    bus.CarriesOut (step.request :: plan) (step :: steps) r

namespace CarriesOut

variable {bus : Bus β ω} {plan more : List Request} {steps others : List Step}
  {r : Ending ClientError Unit}

theorem single (step : Step) : bus.CarriesOut [step.request] [step] (bus.verdict step) := by
  by_cases h : bus.verdict step = .ok ()
  · rw [h]
    exact .passed h .done
  · exact .stopped h

/-- The requests are made in the order of the plan. -/
theorem isPrefix (h : bus.CarriesOut plan steps r) : steps.map Step.request <+: plan := by
  induction h with
  | done => exact List.prefix_rfl
  | stopped _ => exact (List.prefix_cons_inj _).mpr List.nil_prefix
  | passed _ _ ih => exact (List.prefix_cons_inj _).mpr ih

/-- Every step but the last passes. -/
theorem passes (h : bus.CarriesOut plan steps r) :
    ∀ step ∈ steps.dropLast, bus.verdict step = .ok () := by
  induction h with
  | done => exact fun _ hstep => nomatch hstep
  | stopped _ => exact fun _ hstep => nomatch hstep
  | @passed step plan steps r hpass _ ih =>
    intro other hother
    cases steps with
    | nil => exact nomatch hother
    | cons next rest =>
      rcases List.mem_cons.mp hother with rfl | hlater
      · exact hpass
      · exact ih other hlater

theorem isOk_iff (h : bus.CarriesOut plan steps r) :
    r = .ok () ↔ steps.map Step.request = plan ∧ ∀ step ∈ steps, bus.verdict step = .ok () := by
  induction h with
  | done => simp
  | stopped hfails =>
    refine ⟨fun hok => absurd hok hfails, fun hall => ?_⟩
    exact absurd (hall.2 _ (List.mem_singleton_self _)) hfails
  | passed hpass _ ih =>
    rw [ih]
    simp [hpass]

/-- What does not succeed ends as its last step does. -/
theorem ended (h : bus.CarriesOut plan steps r) (hr : r ≠ .ok ()) :
    ∃ step, steps.getLast? = some step ∧ bus.verdict step = r := by
  induction h with
  | done => exact absurd rfl hr
  | @stopped step _ _ => exact ⟨step, rfl, rfl⟩
  | @passed step plan steps r _ hrest ih =>
    obtain ⟨last, hlast, hverdict⟩ := ih hr
    refine ⟨last, ?_, hverdict⟩
    rw [List.getLast?_cons, hlast, Option.getD_some]

theorem append_of_stopped (h : bus.CarriesOut plan steps r) (hr : r ≠ .ok ()) :
    bus.CarriesOut (plan ++ more) steps r := by
  induction h with
  | done => exact absurd rfl hr
  | stopped hfails => exact .stopped hfails
  | passed hpass _ ih => exact .passed hpass (ih hr)

theorem append (h : bus.CarriesOut plan steps (.ok ())) (hmore : bus.CarriesOut more others r) :
    bus.CarriesOut (plan ++ more) (steps ++ others) r := by
  -- How the first part ends is an index of the relation, so the induction needs a name for it.
  generalize hdone : Ending.ok () = done at h
  induction h with
  | done => exact hmore
  | stopped hfails => exact absurd hdone.symm hfails
  | passed hpass _ ih => exact .passed hpass (ih hdone)

end CarriesOut

/-- Requests follow a plan: they are made in its order, each after all before it have passed. Either
the last of them comes to nothing, and decides how it ends, or the plan is complete. -/
structure Follows (bus : Bus β ω) (plan : List Request) (steps : List Step)
    (r : Ending ClientError Unit) : Prop where
  planned : steps.map Step.request <+: plan
  passed : ∀ step ∈ steps.dropLast, bus.verdict step = .ok ()
  stopped : r ≠ .ok () → ∃ step, steps.getLast? = some step ∧ bus.verdict step = r
  complete : r = .ok () ↔
    steps.map Step.request = plan ∧ ∀ step ∈ steps, bus.verdict step = .ok ()

theorem CarriesOut.follows {bus : Bus β ω} {plan : List Request} {steps : List Step}
    {r : Ending ClientError Unit} (h : bus.CarriesOut plan steps r) : bus.Follows plan steps r :=
  ⟨h.isPrefix, h.passes, h.ended, h.isOk_iff⟩

namespace Follows

variable {bus : Bus β ω} {plan : List Request} {steps : List Step} {r : Ending ClientError Unit}

theorem mem_plan (h : bus.Follows plan steps r) {step : Step} (hstep : step ∈ steps) :
    step.request ∈ plan :=
  h.planned.subset (List.mem_map_of_mem hstep)

/-- A step stands where its request stands in the plan, and all before it have passed. -/
theorem at_index (h : bus.Follows plan steps r) {i : Nat} {step : Step}
    (hi : steps[i]? = some step) :
    plan[i]? = some step.request ∧ ∀ earlier ∈ steps.take i, bus.verdict earlier = .ok () := by
  have hlt : i < steps.length := (List.getElem?_eq_some_iff.mp hi).1
  constructor
  · have hmapped : (steps.map Step.request)[i]? = some step.request := by
      rw [List.getElem?_map, hi, Option.map_some]
    have hthere : i < (steps.map Step.request).length := by rwa [List.length_map]
    rw [← hmapped, List.prefix_iff_getElem?.mp h.planned i hthere,
      List.getElem?_eq_getElem hthere]
  · intro earlier hearlier
    apply h.passed
    rw [List.dropLast_eq_take]
    have htake : steps.take i = (steps.take (steps.length - 1)).take i := by
      rw [List.take_take, Nat.min_eq_left (by omega)]
    rw [htake] at hearlier
    exact List.mem_of_mem_take hearlier

end Follows

end Bus

namespace Action

/-- An action is seen to carry out a plan, and ends as the plan does. -/
def CarriesOut (bus : Bus β ω) (y : Action (Observed β) ClientError ω α)
    (x : Action β ClientError ω α) (s : β) (plan : List Request) : Prop :=
  ∃ steps, y.IsSeen x s steps ∧ bus.CarriesOut plan steps (x.run s).result.void

variable {bus : Bus β ω} {s : β}

/-- A sequence whose first part gives no value ends as that part does. -/
theorem void_bind_of_stopped {x : Action β ε ω α} {f : α → Action β ε ω γ}
    (hstop : ∀ a, (x.run s).result ≠ .ok a) :
    ((x >>= f).run s).result.void = (x.run s).result.void := by
  cases hresult : (x.run s).result with
  | ok a => exact absurd hresult (hstop a)
  | error e => rw [run_bind_of_error f hresult]; rfl
  | crash c => rw [run_bind_of_crash f hresult]; rfl

theorem carriesOut_pure (a : α) (s : β) :
    CarriesOut bus (Pure.pure a) (Pure.pure a) s [] :=
  ⟨[], isSeen_pure a s, .done⟩

/-- A sequence carries out the plan of its first part and, if that succeeds, that of the second. -/
theorem CarriesOut.bind {y : Action (Observed β) ClientError ω α} {x : Action β ClientError ω α}
    {g : α → Action (Observed β) ClientError ω γ} {f : α → Action β ClientError ω γ}
    {plan more : List Request} (hx : CarriesOut bus y x s plan)
    (hf : ∀ a, (x.run s).result = .ok a → CarriesOut bus (g a) (f a) (x.run s).state more) :
    CarriesOut bus (y >>= g) (x >>= f) s (plan ++ more) := by
  obtain ⟨steps, hseen, hplan⟩ := hx
  by_cases hstop : ∀ a, (x.run s).result ≠ .ok a
  · have hfails : (x.run s).result.void ≠ .ok () := by
      intro hok
      obtain ⟨a, ha⟩ := Ending.void_eq_ok_iff.mp hok
      exact hstop a ha
    refine ⟨steps, hseen.bind_of_stopped hstop, ?_⟩
    rw [void_bind_of_stopped hstop]
    exact hplan.append_of_stopped hfails
  · obtain ⟨a, ha⟩ := not_forall_not.mp hstop
    obtain ⟨others, hothers, hmore⟩ := hf a ha
    rw [ha] at hplan
    refine ⟨steps ++ others, hseen.bind_of_ok ha hothers, ?_⟩
    rw [run_bind_of_ok f ha]
    exact hplan.append hmore

theorem isSeen_request (bus : Bus β ω) (read : List Value → Except Mismatch α) (c : MethodCall)
    (s : β) :
    (bus.observed.request read c).IsSeen (bus.request read c) s
      [⟨.call c, ((bus.call c).run s).result⟩] :=
  (isSeen_keep (.call c) (bus.call c) s).bind_of_unseen fun values t =>
    isSeen_ofExcept ((read values).mapError bus.badReply) t

theorem carriesOut_subscribe (bus : Bus β ω) (path? : Option ObjectPath) (kind : SignalKind)
    (handler : Handler kind.Payload ω) (s : β) :
    CarriesOut bus (bus.observed.subscribe path? kind handler) (bus.subscribe path? kind handler) s
      [.subscribe ⟨path?, kind⟩] :=
  ⟨_, isSeen_keep (.subscribe ⟨path?, kind⟩) _ s, .single ⟨.subscribe ⟨path?, kind⟩, _⟩⟩

theorem carriesOut_process (bus : Bus β ω) (s : β) :
    CarriesOut bus bus.observed.process bus.process s [.process] :=
  ⟨_, isSeen_keep .process _ s, .single ⟨.process, _⟩⟩

/-- A call whose reply does not matter. -/
theorem carriesOut_request (bus : Bus β ω) {c : MethodCall} (hc : c.method ≠ "Create") (s : β) :
    CarriesOut bus (bus.observed.request Reply.unit c) (bus.request Reply.unit c) s [.call c] := by
  have hverdict : bus.verdict ⟨.call c, ((bus.call c).run s).result⟩ =
      ((bus.request Reply.unit c).run s).result.void := by
    rw [bus.verdict_call hc, bus.run_request, Ending.void_unit]
  refine ⟨_, isSeen_request bus Reply.unit c s, ?_⟩
  rw [← hverdict]
  exact .single ⟨.call c, _⟩

theorem CarriesOut.log_bind {y : Action (Observed β) ClientError ω α}
    {x : Action β ClientError ω α} {plan : List Request} {level : Log.Level} {source : Log.Source}
    {text : String} (hx : CarriesOut bus y x s plan) :
    CarriesOut bus (log level source text >>= fun _ => y) (log level source text >>= fun _ => x) s
      plan := by
  obtain ⟨steps, hseen, hplan⟩ := hx
  refine ⟨steps, hseen.log_bind, ?_⟩
  rwa [(run_log_bind level source text x s).1]

/-- Dispatching processes as often as it may. -/
theorem carriesOut_dispatch (bus : Bus β ω) (rounds : Nat) (s : β) :
    CarriesOut bus (bus.observed.dispatch rounds) (bus.dispatch rounds) s
      (List.replicate rounds .process) := by
  induction rounds generalizing s with
  | zero => exact carriesOut_pure () s
  | succ rounds ih => exact (carriesOut_process bus s).bind fun _ _ => ih _

end Action

end Positioning
