import Mathlib.Data.List.Forall2
import Positioning.Proofs.Bus.Tokens

/-!
# Listeners that stay

A listener does something for each payload of a rule, by itself, and never leaves. What several
listeners do can be told message by message: each message has the effects that they have for it, in
the order of their subscriptions, whatever came before.

## Main definitions

- `Listener` is a rule with what is done for each of its payloads.
- `Listener.effectsInTurn` is what listeners do for messages.
- `Printer` is a rule with the text that is put out for each of its payloads.

## Main statements

- `LocalBus.effects_of_listeners`: what listeners do in a run that ends none of them.
-/

namespace Positioning

variable {ω : Type}

/-- Something that is done for each payload of a rule. -/
structure Listener (ω : Type) where
  rule : MatchRule
  respond : rule.kind.Payload → List (Effect ω)

namespace Listener

/-- The listener as a subscription, with what it was given so far. -/
def subscription (l : Listener ω) (token : Token) (received : List l.rule.kind.Payload) :
    Subscription ω :=
  ⟨token, l.rule, received, .forEach l.respond⟩

/-- What a listener does for a message. -/
def hear (l : Listener ω) (m : Message) : List (Effect ω) :=
  (l.rule.read? m).toList.flatMap l.respond

/-- What listeners do for messages: each message in its turn, each listener in its turn. -/
def effectsInTurn (ls : List (Listener ω)) (ms : List Message) : List (Effect ω) :=
  ms.flatMap fun m => ls.flatMap fun l => l.hear m

/-- A listener stands on a bus as a subscription. -/
def StandsAs (l : Listener ω) (s : Subscription ω) : Prop :=
  ∃ token received, s = l.subscription token received

/-- A message has the effects that the listener has for it, and leaves the listener where it
stands. -/
theorem StandsAs.deliver {l : Listener ω} {s : Subscription ω} (h : l.StandsAs s) (m : Message) :
    Invocation.effects (s.invocations m) = l.hear m ∧
      ∃ s', (s.deliver m).remaining = [s'] ∧ l.StandsAs s' := by
  obtain ⟨token, received, rfl⟩ := h
  cases hread : l.rule.read? m with
  | none =>
    rw [Subscription.deliver_of_not_read (by exact hread)]
    refine ⟨?_, _, rfl, token, received, rfl⟩
    simp [Subscription.invocations, subscription, hread, hear, Invocation.effects]
  | some payload =>
    rw [Subscription.deliver_of_read (by exact hread)]
    refine ⟨?_, l.subscription token (received ++ [payload]), rfl, token, _, rfl⟩
    simp [Subscription.invocations, Subscription.invocation, subscription, hread, hear,
      Invocation.effects, Handler.forEach]

theorem standAs_deliverAll {ls : List (Listener ω)} {subscriptions : List (Subscription ω)}
    (h : List.Forall₂ StandsAs ls subscriptions) (m : Message) :
    Invocation.effects (subscriptions.flatMap (Subscription.invocations m)) =
        ls.flatMap (fun l => l.hear m) ∧
      List.Forall₂ StandsAs ls (Subscription.deliverAll m subscriptions).remaining := by
  induction h with
  | nil => exact ⟨rfl, List.Forall₂.nil⟩
  | cons hfirst _ ih =>
    obtain ⟨heffects, s', hremaining, hstands⟩ := hfirst.deliver m
    obtain ⟨ihEffects, ihStands⟩ := ih
    refine ⟨?_, ?_⟩
    · rw [List.flatMap_cons, List.flatMap_cons, Invocation.effects_append, heffects, ihEffects]
    · simp only [Subscription.deliverAll, List.flatMap_cons, hremaining] at ihStands ⊢
      exact List.Forall₂.cons hstands ihStands

/-- Listeners that stand on a bus do for messages what they do for each, and stay. -/
theorem standAs_inTurn {ls : List (Listener ω)} {subscriptions : List (Subscription ω)}
    (h : List.Forall₂ StandsAs ls subscriptions) (ms : List Message) :
    Invocation.effects (Subscription.invocationsInTurn ms subscriptions) = effectsInTurn ls ms ∧
      List.Forall₂ StandsAs ls (Subscription.remainingInTurn ms subscriptions) := by
  induction ms generalizing subscriptions with
  | nil => exact ⟨rfl, h⟩
  | cons m ms ih =>
    obtain ⟨heffects, hstand⟩ := standAs_deliverAll h m
    obtain ⟨ihEffects, ihStand⟩ := ih hstand
    refine ⟨?_, ihStand⟩
    rw [Subscription.invocationsInTurn, Invocation.effects_append, heffects, ihEffects]
    rfl

end Listener

/-- What listeners do in a run that ends none of them: what they do for its messages. They stand on
the bus at its end. -/
theorem LocalBus.effects_of_listeners {p : Token → Bool} {b : LocalBus ω}
    {ops : List (Operation ω)} {ls : List (Listener ω)}
    (hp : ∀ t, p t = true → t.id < b.nextToken)
    (hends : ∀ t, p t = true → Operation.unsubscribe t ∉ ops)
    (hstand : List.Forall₂ Listener.StandsAs ls (b.subscriptions.filter fun s => p s.token)) :
    Invocation.effects
          (((moments b ops).flatMap Moment.invocations).filter fun i => p i.token) =
        Listener.effectsInTurn ls ((moments b ops).flatMap Moment.processed) ∧
      List.Forall₂ Listener.StandsAs ls
        ((b.after ops).subscriptions.filter fun s => p s.token) := by
  have hspared : ∀ o ∈ ops, ∀ s ∈ b.subscriptions, p s.token = true → o.ends s.token = false := by
    intro o ho s _ hs
    by_contra hpos
    have hunsubscribe := Operation.ends_eq_true_iff.mp (by simpa using hpos)
    exact hends s.token hs (hunsubscribe ▸ ho)
  obtain ⟨hremaining, hinvocations⟩ := LocalBus.filter_after hp hspared
  rw [hremaining, hinvocations]
  exact Listener.standAs_inTurn hstand _

/-! ## Printers -/

/-- A text for each payload of a rule. -/
structure Printer where
  rule : MatchRule
  text : rule.kind.Payload → String

namespace Printer

/-- The text for a message, if the rule reads it. -/
def lines (p : Printer) (m : Message) : List String :=
  ((p.rule.read? m).map p.text).toList

/-- The printer as a listener that puts its texts out. -/
def listener (out : String → ω) (p : Printer) : Listener ω :=
  ⟨p.rule, fun payload => [.output (out (p.text payload))]⟩

theorem hear_listener (out : String → ω) (p : Printer) (m : Message) :
    (p.listener out).hear m = (p.lines m).map fun line => .output (out line) := by
  unfold Listener.hear lines listener
  cases p.rule.read? m <;> rfl

/-- Printers put out their texts for messages, in order, and nothing else. -/
theorem effectsInTurn_listener (out : String → ω) (ps : List Printer) (ms : List Message) :
    Listener.effectsInTurn (ps.map (listener out)) ms =
      (ms.flatMap fun m => ps.flatMap fun p => p.lines m).map fun line => .output (out line) := by
  simp only [Listener.effectsInTurn, List.flatMap_map, hear_listener, List.map_flatMap]

end Printer

end Positioning
