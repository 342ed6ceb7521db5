import Positioning.Proofs.Bus.Run

/-!
# Tokens, and what concerns some of them

Subscriptions stand on a bus in the order in which they were made, each under a token of its own.
So what concerns the subscriptions under some tokens can be followed through a run without regard
to the others: by the messages that the run hands on, and by nothing else.

## Main definitions

- `LocalBus.TokensOrdered` is what holds of the tokens in every state that is reached.

## Main statements

- `LocalBus.Reachable.tokensOrdered`: the order of tokens holds in every reachable state.
- `LocalBus.filter_after`: what a run leaves of subscriptions that it does not end, and which of
  their handlers it runs.
-/

namespace Positioning

variable {ω : Type}

namespace Subscription

/-- Messages leave some of the tokens, in their order. -/
theorem tokens_remainingInTurn (ms : List Message) (subscriptions : List (Subscription ω)) :
    ((remainingInTurn ms subscriptions).map fun s => s.token).Sublist
      (subscriptions.map fun s => s.token) := by
  induction ms generalizing subscriptions with
  | nil => exact List.Sublist.refl _
  | cons m ms ih =>
    refine (ih _).trans ?_
    induction subscriptions with
    | nil => exact List.Sublist.refl _
    | cons s rest ihs =>
      simp only [deliverAll, List.flatMap_cons, List.map_append, List.map_cons] at ihs ⊢
      have hfirst : ((s.deliver m).remaining.map fun s => s.token).Sublist [s.token] := by
        cases hread : s.rule.read? m with
        | none => simp [deliver_of_not_read hread]
        | some payload =>
          rw [deliver_of_read hread]
          simp only [give]
          split <;> simp
      exact hfirst.append ihs

end Subscription

namespace LocalBus

/-! ## Order -/

/-- Subscriptions stand in the order of their tokens, and no token is there before it is given. -/
structure TokensOrdered (b : LocalBus ω) : Prop where
  increasing : (b.subscriptions.map fun s => s.token.id).Pairwise (· < ·)
  below : ∀ s ∈ b.subscriptions, s.token.id < b.nextToken

/-- Traffic gives no token, and leaves the subscriptions that the messages leave. -/
theorem next_of_isTraffic {o : Operation ω} (h : o.isTraffic = true) (b : LocalBus ω) :
    (o.next b).nextToken = b.nextToken ∧
      (o.next b).subscriptions =
        Subscription.remainingInTurn (Moment.processed ⟨b, o⟩) b.subscriptions := by
  cases o with
  | addDevice device => rw [next_addDevice]; split <;> exact ⟨rfl, rfl⟩
  | updateDevice device f => rw [next_updateDevice]; split <;> exact ⟨rfl, rfl⟩
  | emitFor device kind payload => rw [next_emitFor]; exact ⟨rfl, rfl⟩
  | call c => rw [next_call]; exact ⟨rfl, rfl⟩
  | process => rw [next_process]; exact ⟨rfl, rfl⟩
  | drain => rw [next_drain, handOn, List.take_length]; exact ⟨rfl, rfl⟩
  | setKnown known => exact ⟨rfl, rfl⟩
  | emit m => exact ⟨rfl, rfl⟩
  | subscribe path? kind handler => simp [Operation.isTraffic] at h
  | unsubscribe t => simp [Operation.isTraffic] at h

/-- An operation keeps the order of tokens. -/
theorem TokensOrdered.next {b : LocalBus ω} (h : b.TokensOrdered) (o : Operation ω) :
    (o.next b).TokensOrdered := by
  rcases o.traffic_or with htraffic | ⟨path?, kind, handler, rfl⟩ | ⟨t, rfl⟩
  · obtain ⟨hnext, hsubscriptions⟩ := next_of_isTraffic htraffic b
    have htokens := Subscription.tokens_remainingInTurn (Moment.processed ⟨b, o⟩) b.subscriptions
    constructor
    · have hids := htokens.map Token.id
      simp only [List.map_map] at hids
      rw [hsubscriptions]
      exact h.increasing.sublist hids
    · rw [hsubscriptions, hnext]
      intro s hs
      obtain ⟨s', hs', htoken⟩ := Subscription.token_of_mem_remainingInTurn hs
      rw [htoken]
      exact h.below s' hs'
  · rw [next_subscribe]
    constructor
    · simp only [List.map_append, List.map_cons, List.map_nil]
      refine List.pairwise_append.mpr ⟨h.increasing, List.pairwise_singleton _ _, ?_⟩
      intro n hn k hk
      obtain ⟨s, hs, rfl⟩ := List.mem_map.mp hn
      rw [List.mem_singleton.mp hk]
      exact h.below s hs
    · intro s hs
      rcases List.mem_append.mp hs with hold | hnew
      · exact Nat.lt_succ_of_lt (h.below s hold)
      · rw [List.mem_singleton.mp hnew]
        exact Nat.lt_succ_self _
  · rw [next_unsubscribe]
    constructor
    · exact h.increasing.sublist (List.filter_sublist.map _)
    · intro s hs
      exact h.below s (List.mem_of_mem_filter hs)

/-- The order of tokens holds in every state that is reached. -/
theorem Reachable.tokensOrdered {b : LocalBus ω} (h : b.Reachable) : b.TokensOrdered := by
  induction h with
  | initial => exact ⟨List.Pairwise.nil, fun _ hs => nomatch hs⟩
  | next _ o ih => exact ih.next o

theorem TokensOrdered.of_mem_moments {b : LocalBus ω} (h : b.TokensOrdered)
    {ops : List (Operation ω)} {i : Moment ω} (hi : i ∈ moments b ops) : i.bus.TokensOrdered := by
  induction ops generalizing b with
  | nil => simp [moments] at hi
  | cons o ops ih =>
    rcases List.mem_cons.mp hi with rfl | hrest
    · exact h
    · exact ih (h.next o) hrest

theorem nextToken_le_next (o : Operation ω) (b : LocalBus ω) :
    b.nextToken ≤ (o.next b).nextToken := by
  rcases o.traffic_or with htraffic | ⟨path?, kind, handler, rfl⟩ | ⟨t, rfl⟩
  · exact Nat.le_of_eq (next_of_isTraffic htraffic b).1.symm
  · exact Nat.le_succ _
  · exact Nat.le_refl _

theorem nextToken_le_after (b : LocalBus ω) (ops : List (Operation ω)) :
    b.nextToken ≤ (b.after ops).nextToken := by
  induction ops generalizing b with
  | nil => exact Nat.le_refl _
  | cons o ops ih => exact Nat.le_trans (nextToken_le_next o b) (ih _)

/-- A handler runs under a token that has been given. -/
theorem token_lt_of_mem_moments {b : LocalBus ω} (h : b.TokensOrdered) {ops : List (Operation ω)}
    {i : Invocation ω} (hi : i ∈ (moments b ops).flatMap Moment.invocations) :
    i.token.id < (b.after ops).nextToken := by
  induction ops generalizing b with
  | nil => simp [moments] at hi
  | cons o ops ih =>
    rw [moments, List.flatMap_cons] at hi
    rcases List.mem_append.mp hi with hfirst | hrest
    · obtain ⟨s, hs, htoken⟩ := Subscription.token_of_mem_invocationsInTurn hfirst
      rw [htoken]
      exact Nat.lt_of_lt_of_le (h.below s hs) (nextToken_le_after b (o :: ops))
    · exact ih (h.next o) hrest

/-! ## Some of the tokens -/

/-- An operation leaves of the subscriptions under tokens given before what its messages leave of
those that it does not end. -/
theorem filter_next {p : Token → Bool} {b : LocalBus ω} (hp : ∀ t, p t = true → t.id < b.nextToken)
    (o : Operation ω) :
    (o.next b).subscriptions.filter (fun s => p s.token) =
      Subscription.remainingInTurn (Moment.processed ⟨b, o⟩)
        ((b.subscriptions.filter fun s => p s.token).filter fun s => !o.ends s.token) := by
  rcases o.traffic_or with htraffic | ⟨path?, kind, handler, rfl⟩ | ⟨t, rfl⟩
  · rw [(next_of_isTraffic htraffic b).2, Subscription.filter_remainingInTurn]
    simp [Operation.ends_of_isTraffic htraffic]
  · -- The new token is given only now, so the predicate does not know it.
    have hnew : p ⟨b.nextToken⟩ = false := by
      by_contra hpos
      exact absurd (hp _ (by simpa using hpos)) (Nat.lt_irrefl _)
    rw [next_subscribe]
    simp [List.filter_append, Subscription.fresh, hnew, Moment.processed, Operation.ends,
      Subscription.remainingInTurn]
  · rw [next_unsubscribe]
    simp only [Moment.processed, Subscription.remainingInTurn, Operation.ends, List.filter_filter]
    refine List.filter_congr fun s _ => ?_
    by_cases h : s.token = t
    · simp [h]
    · simp [h, Ne.symm h]

/-- A run that does not end some subscriptions leaves of them what its messages leave, and runs
their handlers as its messages do. -/
theorem filter_after {p : Token → Bool} {b : LocalBus ω} {ops : List (Operation ω)}
    (hp : ∀ t, p t = true → t.id < b.nextToken)
    (hends : ∀ o ∈ ops, ∀ s ∈ b.subscriptions, p s.token = true → o.ends s.token = false) :
    (b.after ops).subscriptions.filter (fun s => p s.token) =
        Subscription.remainingInTurn ((moments b ops).flatMap Moment.processed)
          (b.subscriptions.filter fun s => p s.token) ∧
      ((moments b ops).flatMap Moment.invocations).filter (fun i => p i.token) =
        Subscription.invocationsInTurn ((moments b ops).flatMap Moment.processed)
          (b.subscriptions.filter fun s => p s.token) := by
  induction ops generalizing b with
  | nil => exact ⟨rfl, rfl⟩
  | cons o ops ih =>
    -- The operation ends none of them, so nothing counts but the messages that it hands on.
    have hspared : ((b.subscriptions.filter fun s => p s.token).filter fun s => !o.ends s.token) =
        b.subscriptions.filter fun s => p s.token := by
      refine List.filter_eq_self.mpr fun s hs => ?_
      obtain ⟨hmem, hps⟩ := List.mem_filter.mp hs
      rw [hends o (List.mem_cons_self ..) s hmem hps, Bool.not_false]
    have hnext := filter_next hp o
    rw [hspared] at hnext
    have hrest := ih (b := o.next b)
      (fun t ht => Nat.lt_of_lt_of_le (hp t ht) (nextToken_le_next o b)) (by
        intro o' ho' s hs hps
        have hmem : s ∈ (o.next b).subscriptions.filter fun s => p s.token :=
          List.mem_filter.mpr ⟨hs, hps⟩
        rw [hnext] at hmem
        obtain ⟨s', hs', htoken⟩ := Subscription.token_of_mem_remainingInTurn hmem
        obtain ⟨hmem', hps'⟩ := List.mem_filter.mp hs'
        rw [htoken]
        exact hends o' (List.mem_cons_of_mem _ ho') s' hmem' hps')
    rw [hnext] at hrest
    constructor
    · rw [moments, List.flatMap_cons, Subscription.remainingInTurn_append, ← hrest.1]
      rfl
    · rw [moments, List.flatMap_cons, List.flatMap_cons, List.filter_append, hrest.2,
        Subscription.invocationsInTurn_append, ← Subscription.filter_invocationsInTurn]
      rfl

/-! ## One of the tokens -/

/-- A subscription is alone under its token. -/
theorem TokensOrdered.filter_token {b : LocalBus ω} (h : b.TokensOrdered) {s : Subscription ω}
    (hs : s ∈ b.subscriptions) :
    b.subscriptions.filter (fun x => decide (x.token = s.token)) = [s] := by
  have hincreasing : b.subscriptions.Pairwise fun x y => x.token.id < y.token.id :=
    List.pairwise_map.mp h.increasing
  -- Whatever stands before it has a smaller token, whatever stands behind it a greater one.
  obtain ⟨front, back, hsplit⟩ := List.append_of_mem hs
  rw [hsplit] at hincreasing ⊢
  obtain ⟨_, hback, hfront⟩ := List.pairwise_append.mp hincreasing
  have hfrontNone : front.filter (fun x => decide (x.token = s.token)) = [] := by
    refine List.filter_eq_nil_iff.mpr fun x hx => ?_
    have hlt := hfront x hx s (List.mem_cons_self ..)
    simp only [decide_eq_true_eq]
    rintro heq
    exact absurd (heq ▸ hlt) (Nat.lt_irrefl _)
  have hbackNone : back.filter (fun x => decide (x.token = s.token)) = [] := by
    refine List.filter_eq_nil_iff.mpr fun x hx => ?_
    have hlt := List.rel_of_pairwise_cons hback hx
    simp only [decide_eq_true_eq]
    rintro heq
    exact absurd (heq ▸ hlt) (Nat.lt_irrefl _)
  rw [List.filter_append, hfrontNone, List.filter_cons_of_pos (by simp), hbackNone,
    List.nil_append]

/-- For a subscription that a run does not end, nothing counts but the messages that the run hands
on. -/
theorem TokensOrdered.after_of_mem {b : LocalBus ω} (h : b.TokensOrdered) {s : Subscription ω}
    (hs : s ∈ b.subscriptions) {ops : List (Operation ω)}
    (hends : Operation.unsubscribe s.token ∉ ops) :
    (b.after ops).subscriptions.filter (fun x => decide (x.token = s.token)) =
        Subscription.remainingInTurn ((moments b ops).flatMap Moment.processed) [s] ∧
      ((moments b ops).flatMap Moment.invocations).filter
          (fun i => decide (i.token = s.token)) =
        Subscription.invocationsInTurn ((moments b ops).flatMap Moment.processed) [s] := by
  have hgiven : ∀ t, decide (t = s.token) = true → t.id < b.nextToken := by
    intro t ht
    rw [of_decide_eq_true ht]
    exact h.below s hs
  have hspared : ∀ o ∈ ops, ∀ x ∈ b.subscriptions, decide (x.token = s.token) = true →
      o.ends x.token = false := by
    intro o ho x _ hx
    by_contra hpos
    rw [of_decide_eq_true hx] at hpos
    have hunsubscribe := Operation.ends_eq_true_iff.mp (by simpa using hpos)
    exact hends (hunsubscribe ▸ ho)
  have hafter := filter_after (p := fun t => decide (t = s.token)) hgiven hspared
  rw [h.filter_token hs] at hafter
  exact hafter

end LocalBus

end Positioning
