import Mathlib.Data.List.Basic
import Positioning.Bus.Connection
import Positioning.Proofs.Bus.Run

/-!
# One signal, many subscriptions

The bus inside the process gives a signal to every subscription that selects it. A connection gives
it to the first one only, so of subscriptions that overlap the later ones hear nothing while the
earlier ones stay. Where no signal is selected by two subscriptions that are left, both kinds of bus
deliver alike.

## Main definitions

- `Subscription.invocationsFirst` and `Subscription.remainingFirst` are what messages do that are
  each given to the first subscription that selects them.
- `Subscription.NoneShared` says that no message is selected by two subscriptions in its turn.
- `MatchRule.overlaps` says that two rules may select one message.
- `Connection.Steady` says that a connection is up and nothing happens on it by itself.
- `Bus.subscribeAll` makes subscriptions on a bus of any kind.

## Main statements

- `Subscription.first_eq_inTurn`: where nothing is shared, the first is the only one.
- `Connection.Steady.run_drain`: a connection goes through its messages, first come first served.
- `LocalBus.run_drain_subscribed` and `Connection.run_drain_subscribed`: each kind of bus by itself.
- `Connection.buses_deliver`: what both kinds of bus make of the same subscriptions and signals.
-/

namespace Positioning

variable {β ω : Type}

namespace MatchRule

/-- Whether two rules may select one message: they are of one kind, and not for different paths. -/
def overlaps (r r' : MatchRule) : Bool :=
  r.kind = r'.kind && (r.path?.isNone || r'.path?.isNone || r.path? = r'.path?)

theorem overlaps_of_selects {r r' : MatchRule} {m : Message} (h : r.selects m = true)
    (h' : r'.selects m = true) : r.overlaps r' = true := by
  simp only [selects, SignalKind.isNamedBy, Bool.and_eq_true, decide_eq_true_eq] at h h'
  obtain ⟨hpath, _, hmember⟩ := h
  obtain ⟨hpath', _, hmember'⟩ := h'
  have hkind : r.kind = r'.kind := SignalKind.member_injective (hmember.symm.trans hmember')
  rw [overlaps, hkind, decide_eq_true rfl, Bool.true_and]
  -- Where both rules are for a path, it is that of the message.
  cases hr : r.path? with
  | none => rfl
  | some p =>
    cases hr' : r'.path? with
    | none => simp
    | some p' =>
      rw [hr] at hpath
      rw [hr'] at hpath'
      simp only [Option.all_some, decide_eq_true_eq] at hpath hpath'
      simp [hpath, hpath']

end MatchRule

namespace Subscription

/-! ## The first that selects -/

/-- Whether the rule of a subscription selects a message. -/
def selects (m : Message) (s : Subscription ω) : Bool :=
  s.rule.selects m

/-- The runs of handlers that messages cause, one message after the other, where each is given to
the first subscription that selects it. -/
def invocationsFirst : List Message → List (Subscription ω) → List (Invocation ω)
  | [], _ => []
  | m :: rest, subscriptions =>
    (subscriptions.find? (selects m)).toList.flatMap (invocations m) ++
      invocationsFirst rest (Connection.deliverFirst m subscriptions).1.remaining

/-- The subscriptions that remain after messages that are each given to the first subscription that
selects them. -/
def remainingFirst : List Message → List (Subscription ω) → List (Subscription ω)
  | [], subscriptions => subscriptions
  | m :: rest, subscriptions =>
    remainingFirst rest (Connection.deliverFirst m subscriptions).1.remaining

/-- Each message in its turn is selected by one at most of the subscriptions that are left. -/
def NoneShared : List Message → List (Subscription ω) → Prop
  | [], _ => True
  | m :: rest, subscriptions =>
    (subscriptions.filter (selects m)).length ≤ 1 ∧
      NoneShared rest (deliverAll m subscriptions).remaining

variable {m : Message} {s : Subscription ω} {rest subscriptions : List (Subscription ω)}

theorem deliver_of_not_selects (h : ¬ selects m s = true) : s.deliver m = ⟨[], [s]⟩ :=
  if_neg h

theorem invocations_of_not_selects (h : ¬ selects m s = true) : s.invocations m = [] := by
  have hread : s.rule.read? m = none := if_neg h
  rw [invocations, hread]
  rfl

theorem rule_of_mem_remaining {x : Subscription ω} (h : x ∈ (s.deliver m).remaining) :
    x.rule = s.rule := by
  cases hread : s.rule.read? m with
  | none =>
    rw [deliver_of_not_read hread, List.mem_singleton] at h
    rw [h]
  | some payload =>
    rw [deliver_of_read hread] at h
    simp only [give] at h
    split at h
    · rw [List.mem_singleton.mp h]
    · cases h

theorem deliverFirst_cons_of_selects (h : selects m s = true) :
    (Connection.deliverFirst m (s :: rest)).1 =
      ⟨(s.deliver m).effects, (s.deliver m).remaining ++ rest⟩ := by
  unfold selects at h
  rw [Connection.deliverFirst, if_pos h]

theorem deliverFirst_cons_of_not_selects (h : ¬ selects m s = true) :
    (Connection.deliverFirst m (s :: rest)).1 =
      ⟨(Connection.deliverFirst m rest).1.effects,
        s :: (Connection.deliverFirst m rest).1.remaining⟩ := by
  unfold selects at h
  rw [Connection.deliverFirst, if_neg h]

theorem rule_of_mem_deliverFirst {x : Subscription ω}
    (h : x ∈ (Connection.deliverFirst m subscriptions).1.remaining) :
    ∃ s ∈ subscriptions, x.rule = s.rule := by
  induction subscriptions with
  | nil => exact absurd h List.not_mem_nil
  | cons s rest ih =>
    by_cases hs : selects m s = true
    · rw [deliverFirst_cons_of_selects hs] at h
      rcases List.mem_append.mp h with hfirst | hrest
      · exact ⟨s, List.mem_cons_self .., rule_of_mem_remaining hfirst⟩
      · exact ⟨x, List.mem_cons_of_mem _ hrest, rfl⟩
    · rw [deliverFirst_cons_of_not_selects hs] at h
      rcases List.mem_cons.mp h with rfl | hrest
      · exact ⟨x, List.mem_cons_self .., rfl⟩
      · obtain ⟨s', hs', hrule⟩ := ih hrest
        exact ⟨s', List.mem_cons_of_mem _ hs', hrule⟩

/-- Only the first that selects a message has effects for it. -/
theorem effects_deliverFirst (m : Message) (subscriptions : List (Subscription ω)) :
    (Connection.deliverFirst m subscriptions).1.effects =
      Invocation.effects
        ((subscriptions.find? (selects m)).toList.flatMap (invocations m)) := by
  induction subscriptions with
  | nil => rfl
  | cons s rest ih =>
    by_cases hs : selects m s = true
    · rw [deliverFirst_cons_of_selects hs, List.find?_cons_of_pos hs, effects_deliver]
      simp
    · rw [deliverFirst_cons_of_not_selects hs, List.find?_cons_of_neg hs, ih]

theorem first_of_none_selects (h : ∀ s ∈ subscriptions, ¬ selects m s = true) :
    (subscriptions.find? (selects m)) = none ∧
      (Connection.deliverFirst m subscriptions).1.remaining = subscriptions := by
  refine ⟨List.find?_eq_none.mpr h, ?_⟩
  induction subscriptions with
  | nil => rfl
  | cons s rest ih =>
    rw [deliverFirst_cons_of_not_selects (h s (List.mem_cons_self ..)),
      ih fun x hx => h x (List.mem_cons_of_mem _ hx)]

theorem all_of_none_selects (h : ∀ s ∈ subscriptions, ¬ selects m s = true) :
    subscriptions.flatMap (invocations m) = [] ∧
      (deliverAll m subscriptions).remaining = subscriptions := by
  constructor
  · exact List.flatMap_eq_nil_iff.mpr fun s hs => invocations_of_not_selects (h s hs)
  · induction subscriptions with
    | nil => rfl
    | cons s rest ih =>
      have hrest := ih fun x hx => h x (List.mem_cons_of_mem _ hx)
      simp only [deliverAll, List.flatMap_cons] at hrest ⊢
      rw [deliver_of_not_selects (h s (List.mem_cons_self ..)), hrest, List.singleton_append]

/-- A message that one subscription selects at most reaches the same one way and the other. -/
theorem first_eq_all (h : (subscriptions.filter (selects m)).length ≤ 1) :
    (subscriptions.find? (selects m)).toList.flatMap (invocations m) =
        subscriptions.flatMap (invocations m) ∧
      (Connection.deliverFirst m subscriptions).1.remaining =
        (deliverAll m subscriptions).remaining := by
  induction subscriptions with
  | nil => exact ⟨rfl, rfl⟩
  | cons s rest ih =>
    have hall : (deliverAll m (s :: rest)).remaining =
        (s.deliver m).remaining ++ (deliverAll m rest).remaining := by
      simp only [deliverAll, List.flatMap_cons]
    rw [hall, List.flatMap_cons]
    by_cases hs : selects m s = true
    · -- It is the one that selects, so none of the others does.
      have hrest : ∀ x ∈ rest, ¬ selects m x = true := by
        rw [List.filter_cons_of_pos hs, List.length_cons] at h
        have hnone := List.eq_nil_of_length_eq_zero (Nat.le_zero.mp (Nat.le_of_succ_le_succ h))
        exact fun x hx => List.filter_eq_nil_iff.mp hnone x hx
      obtain ⟨hinvocations, hremaining⟩ := all_of_none_selects hrest
      rw [List.find?_cons_of_pos hs, deliverFirst_cons_of_selects hs, hinvocations, hremaining]
      simp
    · obtain ⟨hinvocations, hremaining⟩ := ih (by rwa [List.filter_cons_of_neg hs] at h)
      rw [List.find?_cons_of_neg hs, deliverFirst_cons_of_not_selects hs, hinvocations, hremaining,
        invocations_of_not_selects hs, deliver_of_not_selects hs]
      exact ⟨rfl, rfl⟩

/-- Where nothing is shared, the first that selects a message is the only one. -/
theorem first_eq_inTurn {ms : List Message} (h : NoneShared ms subscriptions) :
    invocationsFirst ms subscriptions = invocationsInTurn ms subscriptions ∧
      remainingFirst ms subscriptions = remainingInTurn ms subscriptions := by
  induction ms generalizing subscriptions with
  | nil => exact ⟨rfl, rfl⟩
  | cons m ms ih =>
    obtain ⟨hone, hlater⟩ := h
    obtain ⟨hinvocations, hremaining⟩ := first_eq_all hone
    obtain ⟨ihInvocations, ihRemaining⟩ := ih hlater
    rw [invocationsFirst, invocationsInTurn, remainingFirst, remainingInTurn, hinvocations,
      hremaining]
    exact ⟨congrArg _ ihInvocations, ihRemaining⟩

/-- Subscriptions that do not overlap share nothing, whatever comes. -/
theorem noneShared_of_pairwise (ms : List Message)
    (h : subscriptions.Pairwise fun s s' => s.rule.overlaps s'.rule = false) :
    NoneShared ms subscriptions := by
  -- Handlers come and go, but the rules that remain are some of those that do not overlap.
  induction ms generalizing subscriptions with
  | nil => trivial
  | cons m ms ih =>
    constructor
    · have hselected := h.filter (selects m)
      have hmem : ∀ s ∈ subscriptions.filter (selects m), s.rule.selects m = true := fun s hs =>
        (List.mem_filter.mp hs).2
      match hfilter : subscriptions.filter (selects m) with
      | [] => exact Nat.zero_le _
      | [_] => exact Nat.le_refl _
      | s :: s' :: _ =>
        rw [hfilter] at hselected hmem
        have hdisjoint := List.rel_of_pairwise_cons hselected (List.mem_cons_self ..)
        have hoverlap := MatchRule.overlaps_of_selects (hmem s (List.mem_cons_self ..))
          (hmem s' (List.mem_cons_of_mem _ (List.mem_cons_self ..)))
        rw [hdisjoint] at hoverlap
        cases hoverlap
    · refine ih (List.pairwise_flatMap.mpr ⟨fun s _ => ?_, h.imp fun hdisjoint x hx y hy => ?_⟩)
      · cases hread : s.rule.read? m with
        | none =>
          rw [deliver_of_not_read hread]
          exact List.pairwise_singleton _ _
        | some payload =>
          rw [deliver_of_read hread]
          simp only [give]
          split
          · exact List.pairwise_singleton _ _
          · exact List.Pairwise.nil
      · rw [rule_of_mem_remaining hx, rule_of_mem_remaining hy]
        exact hdisjoint

/-- Messages that none of some rules selects do not matter, where all subscriptions have such
rules. -/
theorem first_filter {rules : List MatchRule} (h : ∀ s ∈ subscriptions, s.rule ∈ rules)
    (ms : List Message) :
    invocationsFirst (ms.filter fun m => rules.any (·.selects m)) subscriptions =
        invocationsFirst ms subscriptions ∧
      remainingFirst (ms.filter fun m => rules.any (·.selects m)) subscriptions =
        remainingFirst ms subscriptions := by
  induction ms generalizing subscriptions with
  | nil => exact ⟨rfl, rfl⟩
  | cons m ms ih =>
    by_cases hm : rules.any (·.selects m) = true
    · obtain ⟨hinvocations, hremaining⟩ := ih fun s hs => by
        obtain ⟨s', hs', hrule⟩ := rule_of_mem_deliverFirst hs
        exact hrule ▸ h s' hs'
      rw [List.filter_cons_of_pos (by exact hm), invocationsFirst, invocationsFirst, remainingFirst,
        remainingFirst, hinvocations, hremaining]
      exact ⟨rfl, rfl⟩
    · have hnone : ∀ s ∈ subscriptions, ¬ selects m s = true := by
        intro s hs hselects
        exact hm (List.any_eq_true.mpr ⟨s.rule, h s hs, hselects⟩)
      obtain ⟨hfind, hremaining⟩ := first_of_none_selects hnone
      rw [List.filter_cons_of_neg (by exact hm), invocationsFirst, remainingFirst, hfind,
        hremaining]
      exact ih h

end Subscription

namespace Connection

/-! ## A steady connection -/

/-- The connection is up, waits no longer than is possible, and nothing happens on it by itself. -/
structure Steady (b : Connection ω) : Prop where
  link : b.link = .up
  cue : b.script.cue = .never
  stays : b.script.hangsUp = false
  timeout : b.settings.processTimeout.isRefused = false

/-- The messages that have come and have not been processed. -/
def pending (b : Connection ω) : List Message :=
  b.inbox ++ b.line

variable {b : Connection ω}

theorem Steady.play (h : b.Steady) {cue : Cue} (hcue : cue ≠ .never) : b.play cue = b := by
  unfold Connection.play
  rw [h.cue, if_neg (Ne.symm hcue)]

/-- Taking a rule off the bus keeps the connection, its messages and its subscriptions. -/
theorem Steady.endRule (h : b.Steady) (rule? : Option MatchRule) :
    (b.endRule rule?).Steady ∧ (b.endRule rule?).pending = b.pending ∧
      (b.endRule rule?).subscriptions = b.subscriptions := by
  cases rule? with
  | none => exact ⟨h, rfl, rfl⟩
  | some rule =>
    have hended : b.endRule (some rule) = { b with rules := b.rules.erase rule }.receive := by
      simp only [Connection.endRule, exchange, h.link, serveNoRule]
    rw [hended]
    exact ⟨⟨h.link, h.cue, h.stays, h.timeout⟩, List.append_nil _, rfl⟩

theorem Steady.run_process_nil (h : b.Steady) (hpending : b.pending = []) :
    process.run b = ⟨.ok false, [], b⟩ := by
  obtain ⟨hinbox, hline⟩ := List.append_eq_nil_iff.mp hpending
  have hreceive : b.receive = b := by
    cases b
    simp only at hinbox hline
    simp [receive, hinbox, hline]
  simp [process, awaitNext, deliverNext, hinbox, h.link, h.timeout, h.stays, hreceive]

/-- A message is given to the first subscription that selects it. -/
theorem Steady.run_deliver (h : b.Steady) (m : Message) (rest : List Message) :
    ∃ b', (deliver m rest).run b =
        ⟨.ok true, (deliverFirst m b.subscriptions).1.effects, b'⟩ ∧
      b'.Steady ∧ b'.pending = rest ++ b.line ∧
      b'.subscriptions = (deliverFirst m b.subscriptions).1.remaining := by
  have hleft : Steady { b with
      inbox := rest, subscriptions := (deliverFirst m b.subscriptions).1.remaining } :=
    ⟨h.link, h.cue, h.stays, h.timeout⟩
  obtain ⟨hsteady, hpending, hsubscriptions⟩ := hleft.endRule (deliverFirst m b.subscriptions).2
  exact ⟨_, rfl, hsteady, hpending, hsubscriptions⟩

/-- Processing takes the oldest pending message, whether it has been received or not. -/
theorem Steady.run_process_cons (h : b.Steady) {m : Message} {rest : List Message}
    (hpending : b.pending = m :: rest) :
    ∃ b', process.run b = ⟨.ok true, (deliverFirst m b.subscriptions).1.effects, b'⟩ ∧
      b'.Steady ∧ b'.pending = rest ∧
      b'.subscriptions = (deliverFirst m b.subscriptions).1.remaining := by
  cases hinbox : b.inbox with
  | nil =>
    -- The message is still on the line, and is received now with all others.
    have hline : b.line = m :: rest := by simpa [pending, hinbox] using hpending
    have hreceived : b.receive.Steady := ⟨h.link, h.cue, h.stays, h.timeout⟩
    have hprocess : process.run b = (deliver m rest).run b.receive := by
      simp [process, awaitNext, deliverNext, hinbox, h.link, h.timeout, h.stays, receive, hline]
    rw [hprocess]
    obtain ⟨b', hrun, hsteady, hrest, hsubscriptions⟩ := hreceived.run_deliver m rest
    exact ⟨b', hrun, hsteady, hrest.trans (List.append_nil _), hsubscriptions⟩
  | cons first others =>
    have hsplit : first = m ∧ others ++ b.line = rest := by
      simpa [pending, hinbox] using hpending
    obtain ⟨rfl, rfl⟩ := hsplit
    have hprocess : process.run b = (deliver first others).run b := by
      simp [process, deliverNext, hinbox]
    rw [hprocess]
    exact h.run_deliver first others

/-- Processing more often than there are messages goes through all of them. -/
theorem Steady.run_drain_of_lt (h : b.Steady) {rounds : Nat} (hrounds : b.pending.length < rounds) :
    ∃ b', (bus.drain rounds).run b =
        ⟨.ok b.pending.length,
          Invocation.effects (Subscription.invocationsFirst b.pending b.subscriptions), b'⟩ ∧
      b'.pending = [] ∧
      b'.subscriptions = Subscription.remainingFirst b.pending b.subscriptions := by
  -- Each round takes one message, and the one more finds that nothing is pending.
  induction rounds generalizing b with
  | zero => exact absurd hrounds (Nat.not_lt_zero _)
  | succ rounds ih =>
    cases hpending : b.pending with
    | nil =>
      have hprocess : bus.process.run b = ⟨.ok false, [], b⟩ := h.run_process_nil hpending
      rw [Bus.drain, Action.run_bind_of_ok _ (by rw [hprocess]), hprocess]
      exact ⟨b, rfl, hpending, rfl⟩
    | cons m rest =>
      obtain ⟨b', hrun, hsteady, hrest, hsubscriptions⟩ := h.run_process_cons hpending
      have hprocess : bus.process.run b = _ := hrun
      obtain ⟨b'', hlater, hempty, hleft⟩ := ih hsteady (by
        rw [hpending, List.length_cons] at hrounds
        rw [hrest]
        omega)
      refine ⟨b'', ?_, hempty, ?_⟩
      · rw [Bus.drain, Action.run_bind_of_ok _ (by rw [hprocess]), hprocess]
        simp only [if_true]
        rw [Action.run_bind_of_ok _ (by rw [hlater]), hlater, hrest, hsubscriptions,
          Subscription.effects_deliverFirst]
        simp [Subscription.invocationsFirst]
      · rw [hleft, hrest, hsubscriptions, Subscription.remainingFirst]

theorem Steady.run_drain (h : b.Steady) :
    ∃ b', drain.run b =
        ⟨.ok b.pending.length,
          Invocation.effects (Subscription.invocationsFirst b.pending b.subscriptions), b'⟩ ∧
      b'.pending = [] ∧
      b'.subscriptions = Subscription.remainingFirst b.pending b.subscriptions := by
  have hdrain : drain.run b = (bus.drain b.rounds).run b := rfl
  rw [hdrain]
  refine h.run_drain_of_lt ?_
  rw [pending, rounds, List.length_append]
  omega

/-- Signals that are sent wait behind the others, if some rule selects them. -/
theorem Steady.sendAll (h : b.Steady) (ms : List Message) :
    (b.sendAll ms).Steady ∧ (b.sendAll ms).subscriptions = b.subscriptions ∧
      (b.sendAll ms).pending = b.pending ++ ms.filter fun m => b.rules.any (·.selects m) := by
  induction ms generalizing b with
  | nil => exact ⟨h, rfl, (List.append_nil _).symm⟩
  | cons m ms ih =>
    have hcons : b.sendAll (m :: ms) = (b.send m).sendAll ms := rfl
    rw [hcons]
    by_cases hm : b.rules.any (·.selects m) = true
    · have hsent : b.send m = { b with line := b.line ++ [m] } := by
        simp only [send, h.link, hm, decide_true, Bool.and_self, if_true]
      obtain ⟨hsteady, hsubscriptions, hpending⟩ :=
        ih (b := b.send m) (by rw [hsent]; exact ⟨h.link, h.cue, h.stays, h.timeout⟩)
      refine ⟨hsteady, hsubscriptions.trans (by rw [hsent]), ?_⟩
      rw [hpending, hsent, List.filter_cons_of_pos (by exact hm)]
      simp [pending]
    · have hdropped : b.send m = b := by
        simp [send, hm]
      rw [hdropped, List.filter_cons_of_neg (by exact hm)]
      exact ih h

end Connection

/-! ## The same subscriptions on both -/

/-- What is asked for with a subscription. -/
structure Listening (ω : Type) where
  rule : MatchRule
  handler : Handler rule.kind.Payload ω

namespace Listening

/-- The subscriptions that a bus makes which gives its tokens from a number on. -/
def subscriptions : Nat → List (Listening ω) → List (Subscription ω)
  | _, [] => []
  | n, l :: ls => .fresh ⟨n⟩ l.rule l.handler :: subscriptions (n + 1) ls

theorem map_rule_subscriptions (n : Nat) (ls : List (Listening ω)) :
    (subscriptions n ls).map Subscription.rule = ls.map rule := by
  induction ls generalizing n with
  | nil => rfl
  | cons l ls ih => exact congrArg (l.rule :: ·) (ih (n + 1))

end Listening

/-- Makes subscriptions, one after the other, and gives their tokens. -/
def Bus.subscribeAll (bus : Bus β ω) : List (Listening ω) → Action β ClientError ω (List Token)
  | [] => pure []
  | l :: ls => do
    let token ← bus.subscribe l.rule.path? l.rule.kind l.handler
    return token :: (← bus.subscribeAll ls)

theorem LocalBus.run_subscribeAll (ls : List (Listening ω)) (b : LocalBus ω) :
    let made := (bus.subscribeAll ls).run b
    made.result = .ok ((Listening.subscriptions b.nextToken ls).map Subscription.token) ∧
      made.state.subscriptions = b.subscriptions ++ Listening.subscriptions b.nextToken ls ∧
      made.state.queue = b.queue := by
  induction ls generalizing b with
  | nil => exact ⟨rfl, (List.append_nil _).symm, rfl⟩
  | cons l ls ih =>
    obtain ⟨hresult, hsubscriptions, hqueue⟩ :=
      ih ((Operation.subscribe l.rule.path? l.rule.kind l.handler).next b)
    have hfirst : (bus.subscribe l.rule.path? l.rule.kind l.handler).run b =
        ⟨.ok ⟨b.nextToken⟩, [],
          (Operation.subscribe l.rule.path? l.rule.kind l.handler).next b⟩ := rfl
    rw [Bus.subscribeAll, Action.run_bind_of_ok _ (by rw [hfirst]), hfirst,
      Action.run_bind_of_ok _ hresult]
    refine ⟨rfl, ?_, hqueue⟩
    refine hsubscriptions.trans ?_
    rw [next_subscribe, List.append_assoc]
    rfl

namespace Connection

theorem Steady.run_subscribe {b : Connection ω} (h : b.Steady) (l : Listening ω) :
    let made := (bus.subscribe l.rule.path? l.rule.kind l.handler).run b
    made.result = .ok ⟨b.nextToken⟩ ∧ made.state.Steady ∧
      made.state.subscriptions = b.subscriptions ++ [.fresh ⟨b.nextToken⟩ l.rule l.handler] ∧
      made.state.rules = b.rules ++ [l.rule] ∧ made.state.nextToken = b.nextToken + 1 ∧
      made.state.pending = b.pending := by
  obtain ⟨⟨path?, kind⟩, handler⟩ := l
  let ruled : Connection ω := { b with rules := b.rules ++ [⟨path?, kind⟩] }
  have hruled : ruled.Steady := ⟨h.link, h.cue, h.stays, h.timeout⟩
  have hserved : serveRule ⟨path?, kind⟩ b = (some (.ok ()), ruled) := by
    rw [serveRule, hruled.play (by simp)]
  have hexchange : (exchange (serveRule (ω := ω) ⟨path?, kind⟩)).run b =
      ⟨.ok (), [], ruled.receive⟩ := by
    simp only [exchange, h.link, hserved]
    rfl
  have hadded : (exchange (serveRule ⟨path?, kind⟩) >>= fun _ =>
      addSubscription path? kind handler).run b =
        ⟨.ok ⟨b.nextToken⟩, [],
          ((addSubscription path? kind handler).run ruled.receive).state⟩ := by
    rw [Action.run_bind_of_ok _ (by rw [hexchange]), hexchange]
    rfl
  -- The record that is written first changes nothing of this.
  have hresult : ((bus.subscribe path? kind handler).run b).result = .ok ⟨b.nextToken⟩ :=
    (congrArg Outcome.result hadded :)
  have hstate : ((bus.subscribe path? kind handler).run b).state =
      ((addSubscription path? kind handler).run ruled.receive).state :=
    (congrArg Outcome.state hadded :)
  refine ⟨hresult, ?_⟩
  simp only [hstate]
  exact ⟨⟨h.link, h.cue, h.stays, h.timeout⟩, rfl, rfl, rfl, List.append_nil _⟩

theorem Steady.run_subscribeAll (ls : List (Listening ω)) {b : Connection ω} (h : b.Steady) :
    let made := (bus.subscribeAll ls).run b
    made.result = .ok ((Listening.subscriptions b.nextToken ls).map Subscription.token) ∧
      made.state.Steady ∧
      made.state.subscriptions = b.subscriptions ++ Listening.subscriptions b.nextToken ls ∧
      made.state.rules = b.rules ++ ls.map Listening.rule ∧ made.state.pending = b.pending := by
  induction ls generalizing b with
  | nil => exact ⟨rfl, h, (List.append_nil _).symm, (List.append_nil _).symm, rfl⟩
  | cons l ls ih =>
    obtain ⟨hresult, hsteady, hsubscriptions, hrules, hnext, hpending⟩ := h.run_subscribe l
    obtain ⟨ihResult, ihSteady, ihSubscriptions, ihRules, ihPending⟩ := ih hsteady
    rw [Bus.subscribeAll, Action.run_bind_of_ok _ hresult, Action.run_bind_of_ok _ ihResult]
    rw [hnext] at ihSubscriptions ⊢
    refine ⟨rfl, ihSteady, ihSubscriptions.trans ?_, ihRules.trans ?_, ihPending.trans hpending⟩
    · rw [hsubscriptions, List.append_assoc]
      rfl
    · rw [hrules, List.append_assoc]
      rfl

end Connection

/-! ## The same signals on both -/

namespace LocalBus

theorem foldl_emit (ms : List Message) (b : LocalBus ω) :
    ms.foldl LocalBus.emit b = { b with queue := b.queue ++ ms } := by
  induction ms generalizing b with
  | nil => simp
  | cons m ms ih =>
    rw [List.foldl_cons, ih]
    simp [emit]

/-- Inside the process every signal runs the handlers of all subscriptions left that select it. -/
theorem run_drain_subscribed (ls : List (Listening ω)) (ms : List Message) :
    let subscriptions := Listening.subscriptions 1 ls
    let made := (bus.subscribeAll ls).run .initial
    let inside := drain.run (ms.foldl LocalBus.emit made.state)
    inside.result = .ok ms.length ∧
      inside.effects = Invocation.effects (Subscription.invocationsInTurn ms subscriptions) ∧
      inside.state.subscriptions = Subscription.remainingInTurn ms subscriptions := by
  intro subscriptions made inside
  obtain ⟨_, hsubscribed, hqueue⟩ := run_subscribeAll ls (.initial : LocalBus ω)
  have hqueued : (ms.foldl LocalBus.emit made.state).queue = ms := by
    rw [foldl_emit, hqueue]
    rfl
  have hkept : (ms.foldl LocalBus.emit made.state).subscriptions = subscriptions := by
    rw [foldl_emit, hsubscribed]
    rfl
  simp only [inside, run_drain, handOn, handOnEffects, hqueued, hkept, List.take_length, and_self]

end LocalBus

namespace Connection

/-- On a connection every signal runs the handler of the first subscription left that selects it. -/
theorem run_drain_subscribed {b : Connection ω} (h : b.Steady) (hrules : b.rules = [])
    (hsubscriptions : b.subscriptions = []) (hpending : b.pending = [])
    (ls : List (Listening ω)) (ms : List Message) :
    let subscriptions := Listening.subscriptions b.nextToken ls
    let made := (bus.subscribeAll ls).run b
    let outside := drain.run (made.state.sendAll ms)
    outside.result = .ok (ms.countP fun m => (ls.map Listening.rule).any (·.selects m)) ∧
      outside.effects = Invocation.effects (Subscription.invocationsFirst ms subscriptions) ∧
      outside.state.subscriptions = Subscription.remainingFirst ms subscriptions := by
  intro subscriptions made outside
  obtain ⟨_, hsteady, hsubscribed, hruled, hquiet⟩ := h.run_subscribeAll ls
  obtain ⟨hsentSteady, hsentSubscriptions, hsentPending⟩ := hsteady.sendAll ms
  obtain ⟨b', hrun, _, hleft⟩ := hsentSteady.run_drain
  have hkept : (made.state.sendAll ms).subscriptions = subscriptions := by
    rw [hsentSubscriptions, hsubscribed, hsubscriptions, List.nil_append]
  have hsent : (made.state.sendAll ms).pending =
      ms.filter fun m => (ls.map Listening.rule).any (·.selects m) := by
    rw [hsentPending, hquiet, hpending, hruled, hrules, List.nil_append, List.nil_append]
  -- What the bus drops is selected by no subscription, so nothing is lost with it.
  have hrule : ∀ s ∈ subscriptions, s.rule ∈ ls.map Listening.rule := by
    intro s hs
    rw [← Listening.map_rule_subscriptions b.nextToken ls]
    exact List.mem_map_of_mem hs
  obtain ⟨hinvocations, hremaining⟩ := Subscription.first_filter hrule ms
  rw [hkept, hsent] at hrun hleft
  rw [hinvocations, ← List.countP_eq_length_filter] at hrun
  have hended : outside = _ := hrun
  rw [hended]
  exact ⟨rfl, rfl, hleft.trans hremaining⟩

/-- **What two kinds of bus make of the same.** Subscriptions are made in the same order inside the
process and on a fresh connection, the same signals come, and everything is processed. The
subscriptions have the same tokens. Inside the process every signal runs the handlers of all
subscriptions left that select it; on the connection it runs that of the first, and no other. So the
buses deliver alike where no signal is selected by two subscriptions that are left, above all where
no two subscriptions overlap. -/
theorem buses_deliver (remote : Remote) {settings : Settings}
    (htimeout : settings.processTimeout.isRefused = false) (ls : List (Listening ω))
    (ms : List Message) :
    let subscriptions := Listening.subscriptions 1 ls
    let made := (LocalBus.bus.subscribeAll ls).run .initial
    let made' := (bus.subscribeAll ls).run (.fresh settings remote .silent)
    let inside := LocalBus.drain.run (ms.foldl LocalBus.emit made.state)
    let outside := drain.run (made'.state.sendAll ms)
    (made.result = .ok (subscriptions.map Subscription.token) ∧
      made'.result = .ok (subscriptions.map Subscription.token)) ∧
    (inside.result = .ok ms.length ∧
      inside.effects = Invocation.effects (Subscription.invocationsInTurn ms subscriptions) ∧
      inside.state.subscriptions = Subscription.remainingInTurn ms subscriptions) ∧
    (outside.result = .ok (ms.countP fun m => (ls.map Listening.rule).any (·.selects m)) ∧
      outside.effects = Invocation.effects (Subscription.invocationsFirst ms subscriptions) ∧
      outside.state.subscriptions = Subscription.remainingFirst ms subscriptions) ∧
    (Subscription.NoneShared ms subscriptions →
      Subscription.invocationsFirst ms subscriptions =
          Subscription.invocationsInTurn ms subscriptions ∧
        outside.effects = inside.effects ∧
        outside.state.subscriptions = inside.state.subscriptions) ∧
    ((ls.map Listening.rule).Pairwise (fun r r' => r.overlaps r' = false) →
      Subscription.NoneShared ms subscriptions) := by
  intro subscriptions made made' inside outside
  have hfresh : (fresh settings remote .silent : Connection ω).Steady := ⟨rfl, rfl, rfl, htimeout⟩
  obtain ⟨hmade, _⟩ := LocalBus.run_subscribeAll ls (.initial : LocalBus ω)
  obtain ⟨hmade', _⟩ := hfresh.run_subscribeAll ls
  have hinside : inside.result = .ok ms.length ∧
      inside.effects = Invocation.effects (Subscription.invocationsInTurn ms subscriptions) ∧
      inside.state.subscriptions = Subscription.remainingInTurn ms subscriptions :=
    LocalBus.run_drain_subscribed ls ms
  have houtside : outside.result =
        .ok (ms.countP fun m => (ls.map Listening.rule).any (·.selects m)) ∧
      outside.effects = Invocation.effects (Subscription.invocationsFirst ms subscriptions) ∧
      outside.state.subscriptions = Subscription.remainingFirst ms subscriptions :=
    run_drain_subscribed hfresh rfl rfl rfl ls ms
  refine ⟨⟨hmade, hmade'⟩, hinside, houtside, fun hnone => ?_, fun hdisjoint => ?_⟩
  · obtain ⟨hsame, hsameLeft⟩ := Subscription.first_eq_inTurn hnone
    rw [houtside.2.1, houtside.2.2, hinside.2.1, hinside.2.2, hsame, hsameLeft]
    exact ⟨rfl, rfl, rfl⟩
  · rw [← Listening.map_rule_subscriptions 1 ls, List.pairwise_map] at hdisjoint
    exact Subscription.noneShared_of_pairwise ms hdisjoint

/-- Tells the times that are heard, each with the number of the listener. -/
def timesFrom (path? : Option ObjectPath) (n : Nat) : Listening (Nat × Int32) :=
  ⟨⟨path?, .timeChanged⟩, .output fun timestamp : Int32 => (n, timestamp)⟩

/-- A time from the root object. -/
def timeSignal (timestamp : Int32) : Message :=
  SignalKind.timeChanged.message .root timestamp

/-- Listeners to different objects hear the same on both buses. -/
theorem buses_deliver_apart :
    let ls := [timesFrom (some .control) 0, timesFrom (some .root) 1]
    let made := (LocalBus.bus.subscribeAll ls).run .initial
    let made' := (bus.subscribeAll ls).run (.fresh .default ⟨.initial, [], .empty⟩ .silent)
    Settings.default.processTimeout.isRefused = false ∧
      (drain.run (made'.state.sendAll [timeSignal 5, timeSignal 6])).effects =
        (LocalBus.drain.run ([timeSignal 5, timeSignal 6].foldl LocalBus.emit made.state)).effects ∧
      Effect.outputs (drain.run (made'.state.sendAll [timeSignal 5, timeSignal 6])).effects =
        [(1, 5), (1, 6)] := by
  have htimeout : Settings.default.processTimeout.isRefused = false := by decide
  have ⟨_, _, _, halike, hdisjoint⟩ := buses_deliver ⟨.initial, [], .empty⟩ htimeout
    [timesFrom (some .control) 0, timesFrom (some .root) 1] [timeSignal 5, timeSignal 6]
  have hnone := hdisjoint (by decide +kernel)
  refine ⟨htimeout, (halike hnone).2.1, ?_⟩
  decide +kernel

/-- Of two listeners to the same signal only the first hears it on a connection. -/
theorem second_unheard :
    let ls := [timesFrom none 0, timesFrom none 1]
    let made := (LocalBus.bus.subscribeAll ls).run .initial
    let made' := (bus.subscribeAll ls).run (.fresh .default ⟨.initial, [], .empty⟩ .silent)
    Effect.outputs (LocalBus.drain.run ([timeSignal 5].foldl LocalBus.emit made.state)).effects =
        [(0, 5), (1, 5)] ∧
      Effect.outputs (drain.run (made'.state.sendAll [timeSignal 5])).effects = [(0, 5)] := by
  decide +kernel

end Connection

end Positioning
