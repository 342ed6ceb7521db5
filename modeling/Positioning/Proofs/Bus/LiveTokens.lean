import Mathlib.Data.List.Nodup
import Positioning.Proofs.Bus.DeliveryLaw

/-!
# The table of subscriptions

A token is given once. It lasts until it is unsubscribed or its handler leaves, whichever comes
first, and it ends once. So at any time the subscriptions of a bus are those whose tokens were given
and have not ended, in the order in which they were given.

## Main definitions

- `LocalBus.liveTokens` are the tokens of the subscriptions that last.
- `Moment.given` and `Moment.ended` are the tokens that an operation gives and ends.
- `LocalBus.tokensGiven` and `LocalBus.tokensEnded` are those of a run.

## Main statements

- `LocalBus.liveTokens_next` and `LocalBus.liveTokens_after`: what is given and not ended is live.
- `LocalBus.exists_subscribed`: what lasts was made by the operation that gave its token.
- `LocalBus.subscription_table`: order, freshness, removal and number of the subscriptions.
-/

namespace Positioning

variable {ω : Type}

/-! ## Leaving -/

namespace Invocation

/-- The tokens whose handlers left, in order. -/
def leaving (is : List (Invocation ω)) : List Token :=
  (is.filter fun i => !i.reaction.keep).map fun i => i.token

@[simp] theorem leaving_nil : leaving ([] : List (Invocation ω)) = [] :=
  rfl

@[simp] theorem leaving_append (is js : List (Invocation ω)) :
    leaving (is ++ js) = leaving is ++ leaving js := by
  simp [leaving]

theorem exists_of_mem_leaving {is : List (Invocation ω)} {t : Token} (h : t ∈ leaving is) :
    ∃ i ∈ is, i.token = t := by
  obtain ⟨i, hi, rfl⟩ := List.mem_map.mp h
  exact ⟨i, List.mem_of_mem_filter hi, rfl⟩

end Invocation

namespace Subscription

open Invocation

def tokens (subscriptions : List (Subscription ω)) : List Token :=
  subscriptions.map fun s => s.token

@[simp] theorem tokens_append (ss rs : List (Subscription ω)) :
    tokens (ss ++ rs) = tokens ss ++ tokens rs :=
  List.map_append

/-- A subscription stays after a message, or its handler leaves at it. -/
theorem deliver_leaves (m : Message) (s : Subscription ω) :
    (tokens (s.deliver m).remaining = [s.token] ∧ leaving (s.invocations m) = []) ∨
      (tokens (s.deliver m).remaining = [] ∧ leaving (s.invocations m) = [s.token]) := by
  cases hread : s.rule.read? m with
  | none => exact .inl (by simp [deliver_of_not_read hread, invocations, hread, tokens])
  | some payload =>
    rw [deliver_of_read hread]
    cases hkeep : (s.handler s.received payload).keep with
    | true =>
      exact .inl (by simp [give, invocations, hread, hkeep, tokens, leaving, invocation])
    | false =>
      exact .inr (by simp [give, invocations, hread, hkeep, tokens, leaving, invocation])

theorem leaving_sublist (m : Message) (subscriptions : List (Subscription ω)) :
    (leaving (subscriptions.flatMap (invocations m))).Sublist (tokens subscriptions) := by
  induction subscriptions with
  | nil => exact List.Sublist.refl _
  | cons s rest ih =>
    rw [List.flatMap_cons, leaving_append]
    rcases deliver_leaves m s with ⟨_, hnone⟩ | ⟨_, hleft⟩
    · rw [hnone, List.nil_append]
      exact ih.cons _
    · rw [hleft]
      exact ih.cons_cons _

/-- One message leaves the tokens whose handlers do not leave. -/
theorem tokens_deliverAll (m : Message) {subscriptions : List (Subscription ω)}
    (h : (tokens subscriptions).Nodup) :
    tokens (deliverAll m subscriptions).remaining =
      (tokens subscriptions).filter
        fun t => t ∉ leaving (subscriptions.flatMap (invocations m)) := by
  induction subscriptions with
  | nil => rfl
  | cons s rest ih =>
    -- The first handler and the others leave apart, since no other has its token.
    obtain ⟨hs, hrest⟩ := List.nodup_cons.mp h
    have hothers : s.token ∉ leaving (rest.flatMap (invocations m)) :=
      fun hmem => hs ((leaving_sublist m rest).subset hmem)
    have hkept : ∀ t ∈ tokens rest, t ≠ s.token := by
      rintro t ht rfl
      exact hs ht
    have htail := ih hrest
    simp only [deliverAll] at htail
    simp only [deliverAll, List.flatMap_cons, tokens_append, leaving_append]
    rcases deliver_leaves m s with ⟨hstays, hnone⟩ | ⟨hgone, hleft⟩
    · rw [hstays, hnone, htail]
      simp [tokens, hothers]
    · rw [hgone, hleft, htail]
      simp only [tokens, List.map_cons, List.nil_append, List.singleton_append]
      rw [List.filter_cons_of_neg (by simp)]
      refine List.filter_congr fun t ht => ?_
      simp [hkept t ht]

theorem nodup_deliverAll (m : Message) {subscriptions : List (Subscription ω)}
    (h : (tokens subscriptions).Nodup) : (tokens (deliverAll m subscriptions).remaining).Nodup := by
  rw [tokens_deliverAll m h]
  exact h.filter _

/-- Messages leave the tokens whose handlers do not leave. -/
theorem tokens_remainingInTurn_eq (ms : List Message) {subscriptions : List (Subscription ω)}
    (h : (tokens subscriptions).Nodup) :
    tokens (remainingInTurn ms subscriptions) =
      (tokens subscriptions).filter
        fun t => t ∉ leaving (invocationsInTurn ms subscriptions) := by
  induction ms generalizing subscriptions with
  | nil => simp [remainingInTurn, invocationsInTurn]
  | cons m ms ih =>
    rw [remainingInTurn, invocationsInTurn, ih (nodup_deliverAll m h), tokens_deliverAll m h,
      List.filter_filter]
    refine List.filter_congr fun t _ => ?_
    simp [Bool.and_comm]

/-- A handler leaves at most once, and only if its subscription is there. -/
theorem nodup_leaving_inTurn (ms : List Message) {subscriptions : List (Subscription ω)}
    (h : (tokens subscriptions).Nodup) :
    (leaving (invocationsInTurn ms subscriptions)).Nodup ∧
      leaving (invocationsInTurn ms subscriptions) ⊆ tokens subscriptions := by
  constructor
  · induction ms generalizing subscriptions with
    | nil => exact List.nodup_nil
    | cons m ms ih =>
      rw [invocationsInTurn, leaving_append]
      refine (h.sublist (leaving_sublist m subscriptions)).append (ih (nodup_deliverAll m h)) ?_
      -- Who leaves later was left by the first message, so it did not leave at it.
      intro t ht hlater
      obtain ⟨i, hi, rfl⟩ := exists_of_mem_leaving hlater
      obtain ⟨s, hs, htoken⟩ := token_of_mem_invocationsInTurn hi
      have hmem : i.token ∈ tokens (deliverAll m subscriptions).remaining :=
        List.mem_map.mpr ⟨s, hs, htoken.symm⟩
      rw [tokens_deliverAll m h] at hmem
      exact absurd ht (by simpa using (List.mem_filter.mp hmem).2)
  · intro t ht
    obtain ⟨i, hi, rfl⟩ := exists_of_mem_leaving ht
    obtain ⟨s, hs, htoken⟩ := token_of_mem_invocationsInTurn hi
    exact List.mem_map.mpr ⟨s, hs, htoken.symm⟩

end Subscription

/-! ## Giving and ending -/

namespace LocalBus

/-- The tokens of the subscriptions that last, in order. -/
def liveTokens (b : LocalBus ω) : List Token :=
  Subscription.tokens b.subscriptions

theorem TokensOrdered.nodup {b : LocalBus ω} (h : b.TokensOrdered) : b.liveTokens.Nodup := by
  have hincreasing := List.pairwise_map.mp h.increasing
  exact List.pairwise_map.mpr (hincreasing.imp fun hlt heq => Nat.ne_of_lt hlt (congrArg _ heq))

end LocalBus

namespace Operation

def isSubscribe : Operation ω → Bool
  | subscribe .. => true
  | _ => false

end Operation

namespace Moment

/-- The token that the operation gives, if it gives one. -/
def given (i : Moment ω) : List Token :=
  match i.outcome.result with
  | .ok (.token t) => [t]
  | _ => []

/-- The tokens that the operation ends: that of a subscription which it removes, and those of the
handlers that leave in it. -/
def ended (i : Moment ω) : List Token :=
  i.bus.liveTokens.filter i.operation.ends ++ Invocation.leaving i.invocations

theorem given_of_isTraffic {b : LocalBus ω} {o : Operation ω} (h : o.isTraffic = true) :
    given ⟨b, o⟩ = [] := by
  cases o with
  | addDevice device =>
    simp only [given, outcome, Operation.perform, Operation.ofChange, LocalBus.addDevice]
    cases b.daemon.addDevice device <;> rfl
  | updateDevice device f =>
    simp only [given, outcome, Operation.perform, Operation.ofChange, LocalBus.updateDevice]
    cases b.daemon.updateDevice device f <;> rfl
  | emitFor device kind payload =>
    simp only [given, outcome, Operation.perform, Operation.ofChange, LocalBus.emitFor]
    cases ObjectPath.ofDevice device <;> rfl
  | call c =>
    simp only [given, result_call]
    cases (b.daemon.serve c).ending <;> rfl
  | process => simp [given, outcome, Operation.perform, Operation.ofAction, LocalBus.run_process]
  | drain => simp [given, outcome, Operation.perform, Operation.ofAction, LocalBus.run_drain]
  | setKnown known => rfl
  | emit m => rfl
  | subscribe path? kind handler => simp [Operation.isTraffic] at h
  | unsubscribe t => simp [Operation.isTraffic] at h

/-- Subscribing gives the next token, and nothing else gives one. -/
theorem given_eq (b : LocalBus ω) (o : Operation ω) :
    given ⟨b, o⟩ = if o.isSubscribe then [⟨b.nextToken⟩] else [] := by
  rcases o.traffic_or with htraffic | ⟨path?, kind, handler, rfl⟩ | ⟨t, rfl⟩
  · have hnot : o.isSubscribe = false := by cases o <;> simp_all [Operation.isTraffic,
      Operation.isSubscribe]
    rw [given_of_isTraffic htraffic, hnot]
    rfl
  · rfl
  · rfl

theorem ended_of_isTraffic {b : LocalBus ω} {o : Operation ω} (h : o.isTraffic = true) :
    ended ⟨b, o⟩ = Invocation.leaving (invocations ⟨b, o⟩) := by
  simp [ended, Operation.ends_of_isTraffic h]

theorem ended_of_not_isTraffic {b : LocalBus ω} {o : Operation ω} (h : o.isTraffic = false) :
    ended ⟨b, o⟩ = b.liveTokens.filter o.ends := by
  rcases o.traffic_or with htraffic | ⟨path?, kind, handler, rfl⟩ | ⟨t, rfl⟩
  · simp [h] at htraffic
  · simp [ended, invocations, processed, Subscription.invocationsInTurn]
  · simp [ended, invocations, processed, Subscription.invocationsInTurn]

/-- An operation ends each token once, and only such as are live. -/
theorem nodup_ended {b : LocalBus ω} (h : b.TokensOrdered) (o : Operation ω) :
    (ended ⟨b, o⟩).Nodup ∧ ended ⟨b, o⟩ ⊆ b.liveTokens := by
  cases ho : o.isTraffic with
  | true =>
    rw [ended_of_isTraffic ho]
    exact Subscription.nodup_leaving_inTurn _ h.nodup
  | false =>
    rw [ended_of_not_isTraffic ho]
    exact ⟨h.nodup.filter _, List.filter_sublist.subset⟩

end Moment

namespace LocalBus

/-- After an operation those tokens are live that were so or are given by it, and that it does not
end. -/
theorem liveTokens_next {b : LocalBus ω} (h : b.TokensOrdered) (o : Operation ω) :
    (o.next b).liveTokens =
      (b.liveTokens ++ Moment.given ⟨b, o⟩).filter fun t => t ∉ Moment.ended ⟨b, o⟩ := by
  rcases o.traffic_or with htraffic | ⟨path?, kind, handler, rfl⟩ | ⟨t, rfl⟩
  · -- Only handlers end subscriptions here, and nothing is given.
    rw [Moment.given_of_isTraffic htraffic, Moment.ended_of_isTraffic htraffic, List.append_nil,
      liveTokens, (next_of_isTraffic htraffic b).2]
    exact Subscription.tokens_remainingInTurn_eq _ h.nodup
  · rw [Moment.ended_of_not_isTraffic rfl]
    simp [liveTokens, next_subscribe, Subscription.tokens, Subscription.fresh, Moment.given_eq,
      Operation.isSubscribe, Operation.ends]
  · have hremaining : ((Operation.unsubscribe t).next b).liveTokens =
        b.liveTokens.filter fun live => live ≠ t := by
      rw [liveTokens, next_unsubscribe, liveTokens, Subscription.tokens, Subscription.tokens,
        List.filter_map]
      rfl
    have hgiven : Moment.given ⟨b, .unsubscribe t⟩ = [] := rfl
    rw [hremaining, Moment.ended_of_not_isTraffic rfl, hgiven, List.append_nil]
    refine List.filter_congr fun live hlive => ?_
    simp [hlive, Operation.ends, eq_comm]

/-! ## Runs -/

/-- The tokens that a run gives, in order. -/
def tokensGiven (b : LocalBus ω) (ops : List (Operation ω)) : List Token :=
  (moments b ops).flatMap Moment.given

/-- The tokens that a run ends, in order. -/
def tokensEnded (b : LocalBus ω) (ops : List (Operation ω)) : List Token :=
  (moments b ops).flatMap Moment.ended

theorem tokensGiven_cons (b : LocalBus ω) (o : Operation ω) (ops : List (Operation ω)) :
    b.tokensGiven (o :: ops) = Moment.given ⟨b, o⟩ ++ (o.next b).tokensGiven ops :=
  List.flatMap_cons

theorem tokensEnded_cons (b : LocalBus ω) (o : Operation ω) (ops : List (Operation ω)) :
    b.tokensEnded (o :: ops) = Moment.ended ⟨b, o⟩ ++ (o.next b).tokensEnded ops :=
  List.flatMap_cons

theorem nextToken_next (b : LocalBus ω) (o : Operation ω) :
    (o.next b).nextToken = b.nextToken + (Moment.given ⟨b, o⟩).length := by
  rcases o.traffic_or with htraffic | ⟨path?, kind, handler, rfl⟩ | ⟨t, rfl⟩
  · rw [(next_of_isTraffic htraffic b).1, Moment.given_of_isTraffic htraffic]
    rfl
  · rfl
  · rfl

/-- The tokens of a run are given by counting on from the first. -/
theorem tokensGiven_eq (b : LocalBus ω) (ops : List (Operation ω)) :
    b.tokensGiven ops =
        (List.range' b.nextToken (ops.countP Operation.isSubscribe)).map Token.mk ∧
      (b.after ops).nextToken = b.nextToken + ops.countP Operation.isSubscribe := by
  induction ops generalizing b with
  | nil => exact ⟨rfl, rfl⟩
  | cons o ops ih =>
    obtain ⟨hgiven, hnext⟩ := ih (o.next b)
    have hlength := nextToken_next b o
    rw [tokensGiven_cons, hgiven, List.countP_cons, after, hnext, hlength, Moment.given_eq]
    cases o.isSubscribe with
    | true => simp [Nat.add_comm 1, List.range'_succ, Nat.add_assoc]
    | false => simp

theorem lt_of_mem_tokensGiven {b : LocalBus ω} {ops : List (Operation ω)} {t : Token}
    (h : t ∈ b.tokensGiven ops) : b.nextToken ≤ t.id ∧ t.id < (b.after ops).nextToken := by
  rw [(tokensGiven_eq b ops).1] at h
  obtain ⟨n, hn, rfl⟩ := List.mem_map.mp h
  rw [(tokensGiven_eq b ops).2]
  exact List.mem_range'_1.mp hn

theorem TokensOrdered.lt_of_mem_liveTokens {b : LocalBus ω} (h : b.TokensOrdered) {t : Token}
    (ht : t ∈ b.liveTokens) : t.id < b.nextToken := by
  obtain ⟨s, hs, rfl⟩ := List.mem_map.mp ht
  exact h.below s hs

/-- After a run those tokens are live that were so or are given by it, and that it does not end. -/
theorem liveTokens_after {b : LocalBus ω} (h : b.TokensOrdered) (ops : List (Operation ω)) :
    (b.after ops).liveTokens =
      (b.liveTokens ++ b.tokensGiven ops).filter fun t => t ∉ b.tokensEnded ops := by
  induction ops generalizing b with
  | nil => simp [after, tokensGiven, tokensEnded, moments]
  | cons o ops ih =>
    -- What is given later is new, so this operation does not end it.
    have hlater : ∀ t ∈ (o.next b).tokensGiven ops, t ∉ Moment.ended ⟨b, o⟩ := by
      intro t ht hended
      have hbelow := h.lt_of_mem_liveTokens ((Moment.nodup_ended h o).2 hended)
      have habove := (lt_of_mem_tokensGiven ht).1
      have hnext := nextToken_le_next o b
      omega
    rw [after, ih (h.next o), liveTokens_next h, tokensGiven_cons, tokensEnded_cons,
      ← List.append_assoc]
    generalize b.liveTokens ++ Moment.given ⟨b, o⟩ = known
    rw [List.filter_append, List.filter_append, List.filter_filter]
    refine congrArg₂ _ (List.filter_congr fun t _ => ?_) (List.filter_congr fun t ht => ?_)
    · simp [Bool.and_comm]
    · simp [hlater t ht]

/-- A run ends each token once, and only such as are live or given by it. -/
theorem nodup_tokensEnded {b : LocalBus ω} (h : b.TokensOrdered) (ops : List (Operation ω)) :
    (b.tokensEnded ops).Nodup ∧ b.tokensEnded ops ⊆ b.liveTokens ++ b.tokensGiven ops := by
  induction ops generalizing b with
  | nil => exact ⟨List.nodup_nil, List.nil_subset _⟩
  | cons o ops ih =>
    obtain ⟨hnodup, hsubset⟩ := ih (h.next o)
    obtain ⟨hfirst, hlive⟩ := Moment.nodup_ended h o
    rw [tokensEnded_cons, tokensGiven_cons]
    constructor
    · refine hfirst.append hnodup ?_
      -- What ends later was left by this operation, or is given only afterwards.
      intro t ht hlater
      rcases List.mem_append.mp (hsubset hlater) with hleft | hgiven
      · rw [liveTokens_next h] at hleft
        exact absurd ht (by simpa using (List.mem_filter.mp hleft).2)
      · have hbelow := h.lt_of_mem_liveTokens (hlive ht)
        have habove := (lt_of_mem_tokensGiven hgiven).1
        have hnext := nextToken_le_next o b
        omega
    · intro t ht
      rcases List.mem_append.mp ht with hnow | hlater
      · exact List.mem_append_left _ (hlive hnow)
      · rw [← List.append_assoc]
        refine (List.mem_append.mp (hsubset hlater)).elim (fun hleft => ?_)
          (List.mem_append_right _)
        rw [liveTokens_next h] at hleft
        exact List.mem_append_left _ (List.mem_of_mem_filter hleft)

/-- A list without some of its members is as much shorter as there are of them. -/
theorem length_filter_not_mem {α : Type} [DecidableEq α] {xs ys : List α} (hxs : xs.Nodup)
    (hys : ys.Nodup) (h : ys ⊆ xs) :
    (xs.filter fun x => x ∉ ys).length + ys.length = xs.length := by
  -- The members that are left out are those of the other list, in some order.
  have hperm : (xs.filter fun x => x ∈ ys).Perm ys := by
    refine (List.perm_ext_iff_of_nodup (hxs.filter _) hys).mpr fun x => ?_
    simpa using @h x
  have hsplit := List.length_eq_length_filter_add (l := xs) fun x => decide (x ∈ ys)
  rw [hperm.length_eq] at hsplit
  rw [hsplit, Nat.add_comm]
  simp

/-- A subscription that lasts was made by the operation of the run that gave its token. -/
theorem exists_subscribed {ops : List (Operation ω)} {s : Subscription ω}
    (hs : s ∈ (LocalBus.initial.after ops).subscriptions) :
    ∃ r : SubscribedRun ω, r.before ++ r.own :: r.after = ops ∧
      s = ⟨r.token, r.rule, r.offered, r.handler⟩ := by
  have hordered := (Reachable.initial (ω := ω)).tokensOrdered
  have hlive : s.token ∈ (LocalBus.initial.after ops).liveTokens := List.mem_map.mpr ⟨s, hs, rfl⟩
  rw [liveTokens_after hordered] at hlive
  -- Nothing is live at the start, so the run gave the token.
  have hgiven : s.token ∈ LocalBus.initial.tokensGiven ops := List.mem_of_mem_filter hlive
  obtain ⟨⟨b, o⟩, hi, ht⟩ := List.mem_flatMap.mp hgiven
  obtain ⟨before, later, rfl, rfl⟩ := exists_of_mem_moments hi
  rw [Moment.given_eq] at ht
  cases o with
  | subscribe path? kind handler =>
    let r : SubscribedRun ω := ⟨before, ⟨path?, kind⟩, handler, later⟩
    have htoken : s.token = r.token := List.mem_singleton.mp ht
    refine ⟨r, rfl, ?_⟩
    have hmem : s ∈ r.final.subscriptions.filter fun x => r.isOwn x.token :=
      List.mem_filter.mpr ⟨hs, by simp [SubscribedRun.isOwn, htoken]⟩
    rcases r.filter_final with ⟨_, hnone⟩ | ⟨_, hfinal⟩
    · rw [hnone] at hmem
      exact absurd hmem List.not_mem_nil
    · rw [hfinal, SubscribedRun.fresh, Subscription.remainingInTurn_singleton] at hmem
      split at hmem
      · exact List.mem_singleton.mp hmem
      · exact absurd hmem List.not_mem_nil
  | _ => exact absurd ht List.not_mem_nil

/-- Unsubscribing removes the subscription under the token, or only writes into the journal. -/
theorem TokensOrdered.run_unsubscribe {b : LocalBus ω} (h : b.TokensOrdered) (t : Token) :
    (∃ front s back, b.subscriptions = front ++ s :: back ∧ s.token = t ∧
      (unsubscribe t).run b =
        ⟨.ok (), [], { b.note (.unsubscribe t) with subscriptions := front ++ back }⟩) ∨
    (t ∉ b.liveTokens ∧ (unsubscribe t).run b = ⟨.ok (), [], b.note (.unsubscribe t)⟩) := by
  have hkeeps : ∀ xs : List (Subscription ω), t ∉ Subscription.tokens xs →
      xs.filter (fun s => s.token ≠ t) = xs := by
    intro xs hxs
    refine List.filter_eq_self.mpr fun s hs => ?_
    have hne : s.token ≠ t := by
      rintro rfl
      exact hxs (List.mem_map.mpr ⟨s, hs, rfl⟩)
    simpa using hne
  by_cases hlive : t ∈ b.liveTokens
  · obtain ⟨s, hs, rfl⟩ := List.mem_map.mp hlive
    obtain ⟨front, back, hsplit⟩ := List.append_of_mem hs
    refine .inl ⟨front, s, back, hsplit, rfl, ?_⟩
    have hnodup := h.nodup
    rw [liveTokens, hsplit, Subscription.tokens, List.map_append, List.map_cons] at hnodup
    have hothers := (List.nodup_cons.mp (List.nodup_middle.mp hnodup)).1
    rw [List.mem_append, not_or] at hothers
    have hfilter : b.subscriptions.filter (fun x => x.token ≠ s.token) = front ++ back := by
      rw [hsplit, List.filter_append, hkeeps front hothers.1, List.filter_cons_of_neg (by simp),
        hkeeps back hothers.2]
    simp only [unsubscribe, note, hfilter]
  · refine .inr ⟨hlive, ?_⟩
    have hfilter := hkeeps b.subscriptions hlive
    simp only [unsubscribe, note, hfilter]

/-- **The table of subscriptions.** After every run the live tokens increase in the order in which
they were given and lie below the next one, and the next subscription gets a token that was not
given before. Live is exactly what was given and has not ended, and what lasts is as the operation
that gave its token made it. Unsubscribing a token removes the subscription under it and leaves the
others in their order, or does nothing where there is none. No token ends twice, and as many
subscriptions last as were made less those that ended. -/
theorem subscription_table (ops : List (Operation ω)) :
    let b : LocalBus ω := LocalBus.initial.after ops
    let given := (LocalBus.initial : LocalBus ω).tokensGiven ops
    let ended := (LocalBus.initial : LocalBus ω).tokensEnded ops
    ((b.liveTokens.map Token.id).Pairwise (· < ·) ∧ ∀ t ∈ b.liveTokens, t.id < b.nextToken) ∧
    (∀ path? kind handler, ((subscribe path? kind handler).run b).result = .ok ⟨b.nextToken⟩ ∧
      ⟨b.nextToken⟩ ∉ given) ∧
    b.liveTokens = given.filter (fun t => t ∉ ended) ∧
    (∀ s ∈ b.subscriptions, ∃ r : SubscribedRun ω, r.before ++ r.own :: r.after = ops ∧
      (r.own.perform.run r.start).result = .ok (.token s.token) ∧
      ∃ received, s = ⟨s.token, r.rule, received, r.handler⟩) ∧
    (∀ t,
      (∃ front s back, b.subscriptions = front ++ s :: back ∧ s.token = t ∧
        (unsubscribe t).run b =
          ⟨.ok (), [], { b.note (.unsubscribe t) with subscriptions := front ++ back }⟩) ∨
      (t ∉ b.liveTokens ∧ (unsubscribe t).run b = ⟨.ok (), [], b.note (.unsubscribe t)⟩)) ∧
    ended.Nodup ∧ b.subscriptions.length + ended.length = ops.countP Operation.isSubscribe := by
  intro b given ended
  have hinitial := (Reachable.initial (ω := ω)).tokensOrdered
  have hordered : b.TokensOrdered := (Reachable.initial.after ops).tokensOrdered
  have hlive : b.liveTokens = given.filter fun t => t ∉ ended := liveTokens_after hinitial ops
  obtain ⟨hnodup, hsubset⟩ := nodup_tokensEnded hinitial ops
  have hgiven : given = (List.range' 1 (ops.countP Operation.isSubscribe)).map Token.mk :=
    (tokensGiven_eq _ ops).1
  refine ⟨⟨?_, fun t => hordered.lt_of_mem_liveTokens⟩, fun path? kind handler => ⟨rfl, ?_⟩,
    hlive, fun s hs => ?_, hordered.run_unsubscribe, hnodup, ?_⟩
  · rw [liveTokens, Subscription.tokens, List.map_map]
    exact hordered.increasing
  · intro hmem
    exact Nat.lt_irrefl _ (lt_of_mem_tokensGiven hmem).2
  · obtain ⟨r, hops, hs⟩ := exists_subscribed hs
    refine ⟨r, hops, ?_, r.offered, ?_⟩
    · rw [hs]
      rfl
    · rw [hs]
  · have hinjective : given.Nodup := by
      rw [hgiven]
      exact List.Nodup.map (fun _ _ h => congrArg Token.id h) List.nodup_range'
    have hlength : b.subscriptions.length = (given.filter fun t => t ∉ ended).length := by
      rw [← hlive]
      exact (List.length_map _).symm
    rw [hlength, length_filter_not_mem hinjective hnodup hsubset, hgiven]
    simp

/-- Of three listeners to times the second leaves at the first time, and is then unsubscribed. The
first is unsubscribed twice. So is a token that comes to be given only afterwards. -/
def subscribingAgain : List (Operation Int32) :=
  [.subscribe none .timeChanged (.output fun n => n),
    .subscribe none .timeChanged ((Handler.output fun n => n).leavingAt 1),
    .subscribe none .timeChanged (.output fun n => n),
    SubscribedRun.timeAt 5, .process,
    .unsubscribe ⟨2⟩, .unsubscribe ⟨1⟩, .unsubscribe ⟨1⟩, .unsubscribe ⟨4⟩,
    .subscribe none .timeChanged (.output fun n => n)]

/-- The second leaves and the first is removed; the last two of the four are left. -/
theorem subscription_table_subscribingAgain :
    (LocalBus.initial.after subscribingAgain).liveTokens = [⟨3⟩, ⟨4⟩] ∧
      4 < (LocalBus.initial.after subscribingAgain).nextToken ∧
      (LocalBus.initial.after subscribingAgain).subscriptions.length + 2 = 4 := by
  obtain ⟨⟨_, hbelow⟩, _, hlive, _, _, _, hcount⟩ := subscription_table subscribingAgain
  have hended : (LocalBus.initial : LocalBus Int32).tokensEnded subscribingAgain = [⟨2⟩, ⟨1⟩] := by
    decide
  have htokens : (LocalBus.initial.after subscribingAgain).liveTokens = [⟨3⟩, ⟨4⟩] := by
    rw [hlive, hended]
    decide
  refine ⟨htokens, hbelow ⟨4⟩ (by rw [htokens]; decide), ?_⟩
  rw [hended] at hcount
  exact hcount

end LocalBus

end Positioning
