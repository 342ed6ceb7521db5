import Mathlib.Data.List.TakeWhile
import Positioning.Proofs.Bus.Tokens

/-!
# What a subscription receives

One subscription of a run is singled out, with arbitrary operations before and after it. Its handler
runs exactly on the payloads for its rule among the messages that are handed on while it lasts, in
their order, and up to the first on which it leaves.

Which messages are handed on, and when, is a matter of the traffic on the bus alone: of emitting,
calling, processing and draining. Other subscriptions have no part in it.

## Main definitions

- `SubscribedRun` is a run with one of its subscriptions singled out.
- `LocalBus.SameTraffic` says that two buses agree on the daemon and on what waits in the queue.

## Main statements

- `SubscribedRun.delivery_law` says which invocations of the handler a run causes, when the
  subscription is there at its end, and that this is a matter of the traffic.
-/

namespace Positioning

variable {ω : Type}

/-! ## Traffic -/

namespace LocalBus

/-- The daemons are in the same state and the same messages wait. -/
structure SameTraffic (b b' : LocalBus ω) : Prop where
  daemon : b.daemon = b'.daemon
  queue : b.queue = b'.queue

/-- Traffic does the same whatever subscriptions there are. -/
theorem SameTraffic.next {b b' : LocalBus ω} (h : b.SameTraffic b') {o : Operation ω}
    (ho : o.isTraffic = true) :
    (o.next b).SameTraffic (o.next b') ∧
      Moment.processed ⟨b, o⟩ = Moment.processed ⟨b', o⟩ := by
  obtain ⟨hdaemon, hqueue⟩ := h
  cases o with
  | addDevice device =>
    refine ⟨?_, rfl⟩
    rw [next_addDevice, next_addDevice, hdaemon]
    split <;> exact ⟨by simp [hdaemon], hqueue⟩
  | updateDevice device f =>
    refine ⟨?_, rfl⟩
    rw [next_updateDevice, next_updateDevice, hdaemon]
    split <;> exact ⟨by simp [hdaemon], hqueue⟩
  | emitFor device kind payload =>
    refine ⟨?_, rfl⟩
    rw [next_emitFor, next_emitFor]
    exact ⟨hdaemon, congrArg (· ++ _) hqueue⟩
  | call c =>
    refine ⟨?_, rfl⟩
    rw [next_call, next_call, hdaemon]
    exact ⟨rfl, congrArg (· ++ _) hqueue⟩
  | process =>
    rw [next_process, next_process]
    exact ⟨⟨hdaemon, congrArg (List.drop 1) hqueue⟩, congrArg (List.take 1) hqueue⟩
  | drain =>
    rw [next_drain, next_drain, handOn, handOn, hqueue]
    exact ⟨⟨hdaemon, rfl⟩, hqueue⟩
  | setKnown known => exact ⟨⟨congrArg ({ · with known }) hdaemon, hqueue⟩, rfl⟩
  | emit m => exact ⟨⟨hdaemon, congrArg (· ++ [m]) hqueue⟩, rfl⟩
  | subscribe path? kind handler => simp [Operation.isTraffic] at ho
  | unsubscribe t => simp [Operation.isTraffic] at ho

theorem SameTraffic.next_left {b b' : LocalBus ω} (h : b.SameTraffic b') {o : Operation ω}
    (ho : o.isTraffic = false) :
    (o.next b).SameTraffic b' ∧ Moment.processed ⟨b, o⟩ = [] := by
  rcases o.traffic_or with htraffic | ⟨path?, kind, handler, rfl⟩ | ⟨t, rfl⟩
  · simp [htraffic] at ho
  · exact ⟨⟨h.daemon, h.queue⟩, rfl⟩
  · exact ⟨⟨h.daemon, h.queue⟩, rfl⟩

/-- A run hands on the same messages as its traffic alone. -/
theorem SameTraffic.filter {b b' : LocalBus ω} (h : b.SameTraffic b') (ops : List (Operation ω)) :
    (b.after ops).SameTraffic (b'.after (ops.filter Operation.isTraffic)) ∧
      (moments b ops).flatMap Moment.processed =
        (moments b' (ops.filter Operation.isTraffic)).flatMap Moment.processed := by
  induction ops generalizing b b' with
  | nil => exact ⟨h, rfl⟩
  | cons o ops ih =>
    cases ho : o.isTraffic with
    | true =>
      obtain ⟨hnext, hprocessed⟩ := h.next ho
      rw [List.filter_cons_of_pos ho, moments, moments, List.flatMap_cons, List.flatMap_cons,
        hprocessed, (ih hnext).2]
      exact ⟨(ih hnext).1, rfl⟩
    | false =>
      obtain ⟨hnext, hprocessed⟩ := h.next_left ho
      rw [List.filter_cons_of_neg (by simp [ho]), moments, List.flatMap_cons, hprocessed,
        List.nil_append]
      exact ih hnext

/-- Runs with the same traffic hand on the same messages. -/
theorem SameTraffic.after {b b' : LocalBus ω} (h : b.SameTraffic b') {ops ops' : List (Operation ω)}
    (hops : ops.filter Operation.isTraffic = ops'.filter Operation.isTraffic) :
    (b.after ops).SameTraffic (b'.after ops') ∧
      (moments b ops).flatMap Moment.processed = (moments b' ops').flatMap Moment.processed := by
  obtain ⟨hleft, hprocessed⟩ := h.filter ops
  obtain ⟨hright, hprocessed'⟩ := SameTraffic.filter (b := b') ⟨rfl, rfl⟩ ops'
  rw [hops] at hleft hprocessed
  exact ⟨⟨hleft.daemon.trans hright.daemon.symm, hleft.queue.trans hright.queue.symm⟩,
    hprocessed.trans hprocessed'.symm⟩

end LocalBus

/-! ## One subscription -/

/-- A run from the start in which one subscription is singled out. -/
structure SubscribedRun (ω : Type) where
  before : List (Operation ω)
  rule : MatchRule
  handler : Handler rule.kind.Payload ω
  after : List (Operation ω)

namespace SubscribedRun

variable (r : SubscribedRun ω)

/-- The bus on which the subscription is made. -/
def start : LocalBus ω :=
  LocalBus.initial.after r.before

def own : Operation ω :=
  .subscribe r.rule.path? r.rule.kind r.handler

/-- The token of the subscription. -/
def token : Token :=
  ⟨r.start.nextToken⟩

def moments : List (Moment ω) :=
  Positioning.moments .initial (r.before ++ r.own :: r.after)

def final : LocalBus ω :=
  LocalBus.initial.after (r.before ++ r.own :: r.after)

/-- The operations after the subscription, up to the one that ends it. -/
def lifetime : List (Operation ω) :=
  r.after.takeWhile fun o => !o.ends r.token

/-- The messages that are handed on after the subscription is made and before it is ended. -/
def heard : List Message :=
  (Positioning.moments (r.own.next r.start) r.lifetime).flatMap Moment.processed

/-- The payloads for the rule in what is heard: those of the messages of the kind of the rule, from
its path if it has one, whose arguments decode. -/
def offered : List r.rule.kind.Payload :=
  r.heard.filterMap r.rule.read?

/-- The runs of the handler in the whole run. -/
def invocations : List (Invocation ω) :=
  (r.moments.flatMap Moment.invocations).filter fun i => i.token = r.token

def fresh : Subscription ω :=
  ⟨r.token, r.rule, [], r.handler⟩

/-- A run of operations either does not end a subscription, or has a part that does not, and then
the operation that does. -/
theorem takeWhile_ends (t : Token) (ops : List (Operation ω)) :
    (ops.takeWhile (fun o => !o.ends t) = ops ∧ .unsubscribe t ∉ ops) ∨
      ∃ rest, ops = ops.takeWhile (fun o => !o.ends t) ++ .unsubscribe t :: rest := by
  induction ops with
  | nil => exact .inl ⟨rfl, List.not_mem_nil⟩
  | cons o ops ih =>
    cases ho : o.ends t with
    | true =>
      refine .inr ⟨ops, ?_⟩
      rw [List.takeWhile_cons_of_neg (by simp [ho]), Operation.ends_eq_true_iff.mp ho,
        List.nil_append]
    | false =>
      have hne : Operation.unsubscribe t ≠ o := by
        rintro rfl
        simp [Operation.ends] at ho
      rw [List.takeWhile_cons_of_pos (by simp [ho])]
      rcases ih with ⟨hall, hnot⟩ | ⟨rest, hrest⟩
      · exact .inl ⟨congrArg (o :: ·) hall, by simp [hne, hnot]⟩
      · exact .inr ⟨rest, congrArg (o :: ·) hrest⟩

def isOwn (t : Token) : Bool :=
  t = r.token

theorem lt_of_isOwn {t : Token} (h : r.isOwn t = true) : t.id < (r.own.next r.start).nextToken := by
  have htoken : t = r.token := by simpa [isOwn] using h
  rw [htoken]
  exact Nat.lt_succ_self _

/-- When it is made, the subscription is the only one under its token. -/
theorem filter_own :
    (r.own.next r.start).subscriptions.filter (fun s => r.isOwn s.token) = [r.fresh] := by
  have hbelow := (LocalBus.Reachable.initial.after r.before).tokensOrdered.below
  have hothers : r.start.subscriptions.filter (fun s => r.isOwn s.token) = [] := by
    refine List.filter_eq_nil_iff.mpr fun s hs => ?_
    have hlt := hbelow s hs
    simp only [isOwn, decide_eq_true_eq]
    rintro heq
    rw [heq] at hlt
    exact Nat.lt_irrefl _ hlt
  rw [own, LocalBus.next_subscribe, List.filter_append, hothers]
  simp [isOwn, Subscription.fresh, token, fresh]

/-- While it lasts the subscription is left as what it hears leaves it, and its handler runs as what
it hears makes it. -/
theorem filter_lifetime :
    ((r.own.next r.start).after r.lifetime).subscriptions.filter (fun s => r.isOwn s.token) =
        Subscription.remainingInTurn r.heard [r.fresh] ∧
      ((Positioning.moments (r.own.next r.start) r.lifetime).flatMap Moment.invocations).filter
          (fun i => r.isOwn i.token) =
        Subscription.invocationsInTurn r.heard [r.fresh] := by
  rw [← filter_own]
  refine LocalBus.filter_after (fun _ => r.lt_of_isOwn) fun o ho s _ hs => ?_
  have htoken : s.token = r.token := by simpa [isOwn] using hs
  have hspared := List.mem_takeWhile_imp ho
  rw [htoken]
  simpa using hspared

/-- Once it is ended the subscription is gone, and its handler does not run. -/
theorem filter_ended (rest : List (Operation ω)) :
    let b := (r.own.next r.start).after r.lifetime
    (b.after (.unsubscribe r.token :: rest)).subscriptions.filter (fun s => r.isOwn s.token) = [] ∧
      ((Positioning.moments b (.unsubscribe r.token :: rest)).flatMap Moment.invocations).filter
          (fun i => r.isOwn i.token) = [] := by
  intro b
  have hgiven : ∀ t, r.isOwn t = true → t.id < b.nextToken := fun t ht =>
    Nat.lt_of_lt_of_le (r.lt_of_isOwn ht) (LocalBus.nextToken_le_after _ _)
  have hgone : ((Operation.unsubscribe r.token).next b).subscriptions.filter
      (fun s => r.isOwn s.token) = [] := by
    rw [LocalBus.filter_next hgiven]
    have hnone : (b.subscriptions.filter fun s => r.isOwn s.token).filter
        (fun s => !(Operation.unsubscribe r.token : Operation ω).ends s.token) = [] := by
      refine List.filter_eq_nil_iff.mpr fun s hs => ?_
      have htoken : s.token = r.token := by simpa [isOwn] using (List.mem_filter.mp hs).2
      simp [Operation.ends, htoken]
    rw [hnone, Subscription.remainingInTurn_nil]
  -- Its token is never given again, so what follows has nothing to spare.
  have hspared : ∀ o ∈ rest, ∀ s ∈ ((Operation.unsubscribe r.token).next b).subscriptions,
      r.isOwn s.token = true → o.ends s.token = false := by
    intro o _ s hs hown
    have hmem := List.mem_filter (p := fun s => r.isOwn s.token).mpr ⟨hs, hown⟩
    rw [hgone] at hmem
    exact absurd hmem List.not_mem_nil
  have hrest := LocalBus.filter_after (p := r.isOwn)
    (fun t ht => Nat.lt_of_lt_of_le (hgiven t ht) (LocalBus.nextToken_le_next _ b)) hspared
  rw [hgone, Subscription.remainingInTurn_nil, Subscription.invocationsInTurn_nil] at hrest
  exact hrest

theorem filter_before :
    ((Positioning.moments .initial r.before).flatMap Moment.invocations).filter
      (fun i => r.isOwn i.token) = [] := by
  refine List.filter_eq_nil_iff.mpr fun i hi => ?_
  have hlt := LocalBus.token_lt_of_mem_moments LocalBus.Reachable.initial.tokensOrdered hi
  simp only [isOwn, decide_eq_true_eq]
  intro heq
  rw [heq] at hlt
  exact Nat.lt_irrefl _ hlt

theorem invocations_eq_inTurn :
    r.invocations = Subscription.invocationsInTurn r.heard [r.fresh] := by
  have hsplit : r.invocations =
      ((Positioning.moments (r.own.next r.start) r.after).flatMap Moment.invocations).filter
        (fun i => r.isOwn i.token) := by
    rw [invocations, moments, LocalBus.moments_append, List.flatMap_append, List.filter_append]
    have hbefore := r.filter_before
    simp only [isOwn] at hbefore ⊢
    rw [hbefore, List.nil_append]
    rfl
  rcases takeWhile_ends r.token r.after with ⟨hall, _⟩ | ⟨rest, hrest⟩
  · rw [hsplit, ← r.filter_lifetime.2, lifetime, hall]
  · rw [hsplit, hrest, LocalBus.moments_append, List.flatMap_append, List.filter_append]
    exact (congrArg (_ ++ ·) (r.filter_ended rest).2).trans
      ((List.append_nil _).trans r.filter_lifetime.2)

/-- At the end the subscription is there unless it was ended or its handler left. -/
theorem filter_final :
    (Operation.unsubscribe r.token ∈ r.after ∧
        r.final.subscriptions.filter (fun s => r.isOwn s.token) = []) ∨
      (Operation.unsubscribe r.token ∉ r.after ∧
        r.final.subscriptions.filter (fun s => r.isOwn s.token) =
          Subscription.remainingInTurn r.heard [r.fresh]) := by
  have hfinal : r.final = (r.own.next r.start).after r.after := by
    rw [final, LocalBus.after_append]
    rfl
  rcases takeWhile_ends r.token r.after with ⟨hall, hnot⟩ | ⟨rest, hrest⟩
  · refine .inr ⟨hnot, ?_⟩
    rw [hfinal, ← r.filter_lifetime.1, lifetime, hall]
  · refine .inl ⟨by rw [hrest]; simp, ?_⟩
    rw [hfinal, hrest, LocalBus.after_append]
    exact (r.filter_ended rest).1

theorem invocations_eq_responses :
    r.invocations = (r.handler.responses [] r.offered).map
      fun response => ⟨r.token, r.rule.kind, response.1, response.2⟩ :=
  r.invocations_eq_inTurn.trans (Subscription.invocationsInTurn_singleton ..)

/-- The subscription is there at the end exactly if it was not ended and its handler never left. -/
theorem exists_final_iff :
    (∃ s ∈ r.final.subscriptions, s.token = r.token) ↔
      Operation.unsubscribe r.token ∉ r.after ∧ ∀ i ∈ r.invocations, i.reaction.keep = true := by
  have hexists : (∃ s ∈ r.final.subscriptions, s.token = r.token) ↔
      r.final.subscriptions.filter (fun s => r.isOwn s.token) ≠ [] := by
    simp [isOwn, List.filter_eq_nil_iff]
  rw [hexists]
  rcases r.filter_final with ⟨hended, hfilter⟩ | ⟨hnot, hfilter⟩
  · simp [hfilter, hended]
  · rw [hfilter, fresh, Subscription.remainingInTurn_singleton, r.invocations_eq_responses,
      List.forall_mem_map]
    simp [hnot, offered]

/-- The handlers that a message runs stand in the order of their tokens. -/
theorem pairwise_invocations {b : LocalBus ω} (h : b.TokensOrdered) (m : Message) :
    (b.subscriptions.flatMap (Subscription.invocations m)).Pairwise
      fun i j => i.token.id < j.token.id := by
  have hsublist :
      ((b.subscriptions.flatMap (Subscription.invocations m)).map fun i => i.token.id).Sublist
        (b.subscriptions.map fun s => s.token.id) := by
    induction b.subscriptions with
    | nil => exact List.Sublist.refl _
    | cons s rest ih =>
      rw [List.flatMap_cons, List.map_append, List.map_cons]
      have hfirst : ((s.invocations m).map fun i => i.token.id).Sublist [s.token.id] := by
        rw [Subscription.invocations]
        cases s.rule.read? m with
        | none => simp
        | some payload => exact List.Sublist.refl _
      exact hfirst.append ih
  exact List.pairwise_map.mp (h.increasing.sublist hsublist)

/-- What a subscription hears is a matter of the traffic, before it is made and while it lasts. -/
theorem heard_of_sameTraffic {before after : List (Operation ω)}
    (hbefore : before.filter Operation.isTraffic = r.before.filter Operation.isTraffic)
    (hafter : ({ r with before, after } : SubscribedRun ω).lifetime.filter Operation.isTraffic =
      r.lifetime.filter Operation.isTraffic) :
    ({ r with before, after } : SubscribedRun ω).heard = r.heard := by
  have hinitial : LocalBus.SameTraffic (ω := ω) .initial .initial := ⟨rfl, rfl⟩
  obtain ⟨hdaemon, hqueue⟩ := (hinitial.after hbefore).1
  have hown : (r.own.next (LocalBus.initial.after before)).SameTraffic (r.own.next r.start) :=
    ⟨hdaemon, hqueue⟩
  exact (hown.after hafter).2

/-- **Delivery law.** In every run a subscription gets a token of its own, and its handler runs
exactly on the payloads for its rule in what is handed on while it lasts, in order, up to the first
on which it leaves. At the end it is there unless it was ended or left. All effects of the run are
those of handlers; the handlers that one message runs stand in the order of their subscriptions.
What a subscription receives is the same in every run with the same traffic, whatever other
subscriptions there are and whatever their handlers do. -/
theorem delivery_law :
    (r.own.perform.run r.start).result = .ok (.token r.token) ∧
    r.invocations = (r.handler.responses [] r.offered).map
      (fun response => ⟨r.token, r.rule.kind, response.1, response.2⟩) ∧
    ((∃ s ∈ r.final.subscriptions, s.token = r.token) ↔
      Operation.unsubscribe r.token ∉ r.after ∧ ∀ i ∈ r.invocations, i.reaction.keep = true) ∧
    r.moments.flatMap (fun i => i.outcome.effects) =
      Invocation.effects (r.moments.flatMap Moment.invocations) ∧
    (∀ i ∈ r.moments, ∀ m, (i.bus.subscriptions.flatMap (Subscription.invocations m)).Pairwise
      fun j k => j.token.id < k.token.id) ∧
    ∀ before after,
      before.filter Operation.isTraffic = r.before.filter Operation.isTraffic →
      ({ r with before, after } : SubscribedRun ω).lifetime.filter Operation.isTraffic =
        r.lifetime.filter Operation.isTraffic →
      ({ r with before, after } : SubscribedRun ω).invocations.map
        (fun i => { i with token := r.token }) = r.invocations := by
  refine ⟨rfl, r.invocations_eq_responses, r.exists_final_iff, LocalBus.effects_moments _ _, ?_, ?_⟩
  · intro i hi
    exact pairwise_invocations (LocalBus.Reachable.initial.tokensOrdered.of_mem_moments hi)
  · intro before after hbefore hafter
    have hheard := r.heard_of_sameTraffic hbefore hafter
    rw [invocations_eq_responses, r.invocations_eq_responses, offered, offered, hheard,
      List.map_map]
    rfl

/-- A time from the root object. -/
def timeAt (n : Int32) : Operation Int32 :=
  .emit (SignalKind.timeChanged.message .root n)

/-- A listener to times that leaves at the second, on a bus with no other. -/
def leavingAtSecond : SubscribedRun Int32 where
  before := [timeAt 0]
  rule := ⟨none, .timeChanged⟩
  handler := (Handler.output fun n : Int32 => n).leavingAt 2
  after := [timeAt 1, .process, timeAt 2, .drain]

/-- Listeners before it and beside it, which are ended or leave, do not change what it receives: the
time that waits and the one after, but not the last. -/
theorem delivery_law_leavingAtSecond :
    ({ leavingAtSecond with
        before := [.subscribe none .timeChanged (.output fun n => n), timeAt 0]
        after := [timeAt 1, .unsubscribe ⟨1⟩, .process,
          .subscribe (some .root) .timeChanged ((Handler.output fun n => n).leavingAt 1),
          timeAt 2, .drain] } : SubscribedRun Int32).invocations.map
      (fun i => { i with token := leavingAtSecond.token }) = leavingAtSecond.invocations ∧
    Effect.outputs (Invocation.effects leavingAtSecond.invocations) = [0, 1] :=
  ⟨leavingAtSecond.delivery_law.2.2.2.2.2 _ _ rfl rfl, by decide⟩

end SubscribedRun

end Positioning
