import Mathlib.Data.List.Basic
import Positioning.Bus.Subscription

/-!
# Deliveries in turn

What many subscriptions make of many messages. A bus goes through the messages and hands each to
all subscriptions that are left. For one subscription the others do not matter: the same comes out
when the messages are gone through for each subscription by itself.

## Main definitions

- `MatchRule.read?` gives the payload of a message for a rule.
- `Handler.responses` runs a handler on payloads up to the first on which it leaves.
- `Invocation` is one run of a handler; `Subscription.invocationsInTurn` lists those that messages
  cause, and `Subscription.remainingInTurn` the subscriptions that the messages leave.

## Main statements

- `filter_invocationsInTurn` and `filter_remainingInTurn`: subscriptions do not influence each
  other.
- `invocationsInTurn_singleton` and `remainingInTurn_singleton`: one subscription runs its handler
  on the payloads for its rule, and remains if the handler kept it every time.
-/

namespace Positioning

variable {ω : Type}

theorem SignalKind.member_injective : Function.Injective SignalKind.member := by
  intro i j
  cases i <;> cases j <;> decide

namespace MatchRule

/-- The payload of a message for a rule: that of a selected message whose arguments decode. -/
def read? (r : MatchRule) (m : Message) : Option r.kind.Payload :=
  if r.selects m then (r.kind.decode m.arguments).toOption else none

/-- A rule reads a message by path, interface, member and arguments. -/
theorem read?_eq_some_iff {r : MatchRule} {m : Message} {payload : r.kind.Payload} :
    r.read? m = some payload ↔
      (∀ p, r.path? = some p → p = m.path) ∧ m.interface = r.kind.interface.name ∧
        m.member = r.kind.member ∧ r.kind.decode m.arguments = .ok payload := by
  have hpath : r.path?.all (· = m.path) = true ↔ ∀ p, r.path? = some p → p = m.path := by
    cases r.path? <;> simp
  have hdecode : (r.kind.decode m.arguments).toOption = some payload ↔
      r.kind.decode m.arguments = .ok payload := by
    cases r.kind.decode m.arguments <;> simp [Except.toOption]
  rw [← hpath, ← hdecode]
  simp [read?, selects, SignalKind.isNamedBy, and_assoc]

end MatchRule

namespace Handler

variable {α : Type}

/-- The payloads that a handler is run on out of those that are offered to it, and how it reacts:
all of them up to the first on which it leaves. -/
def responses (h : Handler α ω) (past : List α) : List α → List (α × Reaction ω)
  | [] => []
  | a :: rest => (a, h past a) :: if (h past a).keep then h.responses (past ++ [a]) rest else []

end Handler

/-- One run of the handler of a subscription. -/
structure Invocation (ω : Type) where
  token : Token
  kind : SignalKind
  payload : kind.Payload
  reaction : Reaction ω

namespace Invocation

/-- What the runs of handlers did, in order. -/
def effects (is : List (Invocation ω)) : List (Effect ω) :=
  is.flatMap fun i => i.reaction.effects

@[simp] theorem effects_append (is js : List (Invocation ω)) :
    effects (is ++ js) = effects is ++ effects js :=
  List.flatMap_append

end Invocation

namespace Subscription

/-- The run of the handler on a payload. -/
def invocation (s : Subscription ω) (payload : s.rule.kind.Payload) : Invocation ω :=
  ⟨s.token, s.rule.kind, payload, s.handler s.received payload⟩

/-- The runs of the handler that a message causes: one or none. -/
def invocations (m : Message) (s : Subscription ω) : List (Invocation ω) :=
  ((s.rule.read? m).map s.invocation).toList

/-- The runs of handlers that messages cause, one message after the other. -/
def invocationsInTurn : List Message → List (Subscription ω) → List (Invocation ω)
  | [], _ => []
  | m :: rest, subscriptions =>
    subscriptions.flatMap (invocations m) ++
      invocationsInTurn rest (deliverAll m subscriptions).remaining

/-- The subscriptions that remain after messages, one message after the other. -/
def remainingInTurn : List Message → List (Subscription ω) → List (Subscription ω)
  | [], subscriptions => subscriptions
  | m :: rest, subscriptions => remainingInTurn rest (deliverAll m subscriptions).remaining

/-! ## One message -/

/-- A message that the rule reads is given to the handler. -/
theorem deliver_of_read {m : Message} {s : Subscription ω} {payload : s.rule.kind.Payload}
    (h : s.rule.read? m = some payload) : s.deliver m = s.give payload := by
  have hselects : s.rule.selects m = true := by
    by_contra hnot
    simp [MatchRule.read?, hnot] at h
  have hdecode := (MatchRule.read?_eq_some_iff.mp h).2.2.2
  simp [deliver, hselects, hdecode]

theorem deliver_of_not_read {m : Message} {s : Subscription ω} (h : s.rule.read? m = none) :
    s.deliver m = ⟨[], [s]⟩ := by
  unfold deliver
  split
  · next hselects =>
    cases hdecode : s.rule.kind.decode m.arguments with
    | error _ => rfl
    | ok payload => simp [MatchRule.read?, hselects, hdecode, Except.toOption] at h
  · rfl

theorem effects_deliver (m : Message) (s : Subscription ω) :
    (s.deliver m).effects = Invocation.effects (s.invocations m) := by
  cases h : s.rule.read? m with
  | none => simp [deliver_of_not_read h, invocations, h, Invocation.effects]
  | some payload =>
    simp [deliver_of_read h, invocations, h, Invocation.effects, invocation, give]

/-- For one message all handlers run, and nothing else has effects. -/
theorem effects_deliverAll (m : Message) (subscriptions : List (Subscription ω)) :
    (deliverAll m subscriptions).effects =
      Invocation.effects (subscriptions.flatMap (invocations m)) := by
  simp only [deliverAll, effects_deliver, Invocation.effects, List.flatMap_assoc]

theorem token_of_mem_remaining {m : Message} {s x : Subscription ω}
    (h : x ∈ (s.deliver m).remaining) : x.token = s.token := by
  cases hread : s.rule.read? m with
  | none =>
    rw [deliver_of_not_read hread, List.mem_singleton] at h
    rw [h]
  | some payload =>
    rw [deliver_of_read hread] at h
    simp only [give] at h
    split at h
    · rw [List.mem_singleton.mp h]
    · simp at h

theorem token_of_mem_invocations {m : Message} {s : Subscription ω} {i : Invocation ω}
    (h : i ∈ s.invocations m) : i.token = s.token := by
  cases hread : s.rule.read? m with
  | none => simp [invocations, hread] at h
  | some payload =>
    simp only [invocations, hread, Option.map_some, Option.toList_some, List.mem_singleton] at h
    rw [h]
    rfl

/-- A list made of lists whose members all have, or all have not, a property that their origin has
is filtered at the origins. -/
theorem filter_flatMap_of_iff {α β : Type} {f : α → List β} {p : β → Bool} {q : α → Bool}
    (h : ∀ a, ∀ x ∈ f a, p x = q a) (xs : List α) :
    (xs.flatMap f).filter p = (xs.filter q).flatMap f := by
  induction xs with
  | nil => rfl
  | cons a xs ih =>
    rw [List.flatMap_cons, List.filter_append, ih]
    cases hq : q a with
    | true =>
      have hall : (f a).filter p = f a := List.filter_eq_self.mpr fun x hx => (h a x hx).trans hq
      rw [hall, List.filter_cons_of_pos hq, List.flatMap_cons]
    | false =>
      have hnone : (f a).filter p = [] :=
        List.filter_eq_nil_iff.mpr fun x hx => by simp [h a x hx, hq]
      rw [hnone, List.filter_cons_of_neg (by simp [hq]), List.nil_append]

/-- Which subscriptions remain can be told for some of them by themselves. -/
theorem filter_deliverAll (p : Token → Bool) (m : Message) (subscriptions : List (Subscription ω)) :
    (deliverAll m subscriptions).remaining.filter (fun s => p s.token) =
      (deliverAll m (subscriptions.filter fun s => p s.token)).remaining :=
  filter_flatMap_of_iff (fun _ _ h => congrArg p (token_of_mem_remaining h)) subscriptions

theorem filter_invocations (p : Token → Bool) (m : Message)
    (subscriptions : List (Subscription ω)) :
    (subscriptions.flatMap (invocations m)).filter (fun i => p i.token) =
      (subscriptions.filter fun s => p s.token).flatMap (invocations m) :=
  filter_flatMap_of_iff (fun _ _ h => congrArg p (token_of_mem_invocations h)) subscriptions

/-! ## Messages in turn -/

@[simp] theorem remainingInTurn_nil (ms : List Message) :
    remainingInTurn ms ([] : List (Subscription ω)) = [] := by
  induction ms with
  | nil => rfl
  | cons m ms ih => exact ih

@[simp] theorem invocationsInTurn_nil (ms : List Message) :
    invocationsInTurn ms ([] : List (Subscription ω)) = [] := by
  induction ms with
  | nil => rfl
  | cons m ms ih => exact ih

theorem remainingInTurn_append (ms ns : List Message) (subscriptions : List (Subscription ω)) :
    remainingInTurn (ms ++ ns) subscriptions =
      remainingInTurn ns (remainingInTurn ms subscriptions) := by
  induction ms generalizing subscriptions with
  | nil => rfl
  | cons m ms ih => exact ih _

theorem invocationsInTurn_append (ms ns : List Message) (subscriptions : List (Subscription ω)) :
    invocationsInTurn (ms ++ ns) subscriptions =
      invocationsInTurn ms subscriptions ++
        invocationsInTurn ns (remainingInTurn ms subscriptions) := by
  induction ms generalizing subscriptions with
  | nil => rfl
  | cons m ms ih =>
    simp only [List.cons_append, invocationsInTurn, remainingInTurn, ih, List.append_assoc]

theorem token_of_mem_remainingInTurn {ms : List Message} {subscriptions : List (Subscription ω)}
    {x : Subscription ω} (h : x ∈ remainingInTurn ms subscriptions) :
    ∃ s ∈ subscriptions, x.token = s.token := by
  induction ms generalizing subscriptions with
  | nil => exact ⟨x, h, rfl⟩
  | cons m ms ih =>
    obtain ⟨y, hy, hxy⟩ := ih h
    obtain ⟨s, hs, hys⟩ := List.mem_flatMap.mp hy
    exact ⟨s, hs, hxy.trans (token_of_mem_remaining hys)⟩

theorem token_of_mem_invocationsInTurn {ms : List Message}
    {subscriptions : List (Subscription ω)} {i : Invocation ω}
    (h : i ∈ invocationsInTurn ms subscriptions) : ∃ s ∈ subscriptions, i.token = s.token := by
  induction ms generalizing subscriptions with
  | nil => simp [invocationsInTurn] at h
  | cons m ms ih =>
    rcases List.mem_append.mp h with hfirst | hrest
    · obtain ⟨s, hs, hi⟩ := List.mem_flatMap.mp hfirst
      exact ⟨s, hs, token_of_mem_invocations hi⟩
    · obtain ⟨y, hy, hiy⟩ := ih hrest
      obtain ⟨s, hs, hys⟩ := List.mem_flatMap.mp hy
      exact ⟨s, hs, hiy.trans (token_of_mem_remaining hys)⟩

/-- Messages leave of some subscriptions what they would leave without the others. -/
theorem filter_remainingInTurn (p : Token → Bool) (ms : List Message)
    (subscriptions : List (Subscription ω)) :
    (remainingInTurn ms subscriptions).filter (fun s => p s.token) =
      remainingInTurn ms (subscriptions.filter fun s => p s.token) := by
  induction ms generalizing subscriptions with
  | nil => rfl
  | cons m ms ih => rw [remainingInTurn, ih, filter_deliverAll, remainingInTurn]

theorem filter_invocationsInTurn (p : Token → Bool) (ms : List Message)
    (subscriptions : List (Subscription ω)) :
    (invocationsInTurn ms subscriptions).filter (fun i => p i.token) =
      invocationsInTurn ms (subscriptions.filter fun s => p s.token) := by
  induction ms generalizing subscriptions with
  | nil => rfl
  | cons m ms ih =>
    rw [invocationsInTurn, List.filter_append, ih, filter_invocations, filter_deliverAll,
      invocationsInTurn]

/-- One subscription runs its handler on the payloads for its rule, up to the first on which it
leaves. -/
theorem invocationsInTurn_singleton (ms : List Message) (token : Token) (rule : MatchRule)
    (received : List rule.kind.Payload) (handler : Handler rule.kind.Payload ω) :
    invocationsInTurn ms [⟨token, rule, received, handler⟩] =
      (handler.responses received (ms.filterMap rule.read?)).map
        fun response => ⟨token, rule.kind, response.1, response.2⟩ := by
  induction ms generalizing received with
  | nil => rfl
  | cons m ms ih =>
    simp only [invocationsInTurn, deliverAll, List.flatMap_cons, List.flatMap_nil,
      List.append_nil, invocations]
    cases hread : rule.read? m with
    | none =>
      rw [deliver_of_not_read (by exact hread), List.filterMap_cons_none hread]
      exact ih received
    | some payload =>
      rw [deliver_of_read (by exact hread), List.filterMap_cons_some hread]
      simp only [Option.map_some, Option.toList_some, List.singleton_append, Handler.responses,
        List.map_cons, give]
      refine congrArg₂ List.cons rfl ?_
      split
      · exact ih (received ++ [payload])
      · exact invocationsInTurn_nil ms

/-- One subscription remains if its handler kept it every time, and has then received all payloads
for its rule. -/
theorem remainingInTurn_singleton (ms : List Message) (token : Token) (rule : MatchRule)
    (received : List rule.kind.Payload) (handler : Handler rule.kind.Payload ω) :
    remainingInTurn ms [⟨token, rule, received, handler⟩] =
      if (handler.responses received (ms.filterMap rule.read?)).all (·.2.keep) then
        [⟨token, rule, received ++ ms.filterMap rule.read?, handler⟩]
      else [] := by
  induction ms generalizing received with
  | nil => simp [remainingInTurn, Handler.responses]
  | cons m ms ih =>
    simp only [remainingInTurn, deliverAll, List.flatMap_cons, List.flatMap_nil, List.append_nil]
    cases hread : rule.read? m with
    | none =>
      rw [deliver_of_not_read (by exact hread), List.filterMap_cons_none hread]
      exact ih received
    | some payload =>
      rw [deliver_of_read (by exact hread), List.filterMap_cons_some hread]
      simp only [give, Handler.responses, List.all_cons]
      by_cases hkeep : (handler received payload).keep = true
      · simp only [hkeep, if_true, Bool.true_and]
        rw [ih (received ++ [payload]), List.append_assoc, List.singleton_append]
      · simp [hkeep]

end Subscription

end Positioning
