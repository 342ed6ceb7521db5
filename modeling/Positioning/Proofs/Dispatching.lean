import Mathlib.Logic.Function.Iterate
import Positioning.Bus.Lasting
import Positioning.Proofs.Bus.Observed
import Positioning.Tool.Run

/-!
# Dispatching

Dispatching goes on until the bus fails, whether there is anything to process or not, and then it
fails with what the bus failed with. Draining goes on until there is nothing to process. Both do no
more than to process again and again, so it makes no difference how the processing of a queue is cut
into pieces: the handlers run as if the queue were drained at once.

## Main definitions

- `Bus.FailsAfter` says when processing fails for the first time.
- `Bus.Wraps` says that a bus processes as a local bus within it does, or else fails.
- `Piece` is one piece of the processing of a queue.

## Main statements

- `Bus.FailsAfter.run_dispatch`: what dispatching comes to, as soon as it may last long enough.
- `Bus.Wraps.handOn`: what it hands on over a local bus.
- `Piece.run_performAll`: pieces hand on what they are worth together.
- `LocalBus.dispatched_in_pieces`: dispatching, draining, and pieces of both.
-/

namespace Positioning

variable {β ω : Type}

namespace Bus

variable {bus : Bus β ω} {n rounds : ℕ} {e : ClientError} {s : β}

/-- The state in which processing leaves a bus. -/
def processed (bus : Bus β ω) (s : β) : β :=
  (bus.process.run s).state

/-- What is done in so many rounds of processing. -/
def roundEffects (bus : Bus β ω) : ℕ → β → List (Effect ω)
  | 0, _ => []
  | n + 1, s => (bus.process.run s).effects ++ bus.roundEffects n (bus.processed s)

/-- Processing passes so many times, and then fails. -/
structure FailsAfter (bus : Bus β ω) (n : ℕ) (e : ClientError) (s : β) : Prop where
  passes : ∀ k < n, ∃ there, (bus.process.run (bus.processed^[k] s)).result = .ok there
  fails : (bus.process.run (bus.processed^[n] s)).result = .error e

namespace FailsAfter

theorem cons {there : Bool} (hfirst : (bus.process.run s).result = .ok there)
    (h : bus.FailsAfter n e (bus.processed s)) : bus.FailsAfter (n + 1) e s := by
  refine ⟨fun k hk => ?_, h.fails⟩
  cases k with
  | zero => exact ⟨there, hfirst⟩
  | succ k => exact h.passes k (Nat.lt_of_succ_lt_succ hk)

theorem uncons (h : bus.FailsAfter (n + 1) e s) :
    (∃ there, (bus.process.run s).result = .ok there) ∧ bus.FailsAfter n e (bus.processed s) :=
  ⟨h.passes 0 (Nat.succ_pos n), fun k hk => h.passes (k + 1) (Nat.succ_lt_succ hk), h.fails⟩

/-- Dispatching that may last long enough fails as processing does, and leaves what processing so
often leaves. -/
theorem run_dispatch (h : bus.FailsAfter n e s) (hrounds : n < rounds) :
    (bus.dispatch rounds).run s =
      ⟨.error e, bus.roundEffects (n + 1) s, bus.processed^[n + 1] s⟩ := by
  obtain ⟨rounds, rfl⟩ := Nat.exists_eq_add_one_of_ne_zero (Nat.ne_zero_of_lt hrounds)
  induction n generalizing s rounds with
  | zero =>
    have hfails : (bus.process.run s).result = .error e := h.fails
    rw [dispatch, Action.run_bind_of_error _ hfails, roundEffects, roundEffects, List.append_nil]
    rfl
  | succ n ih =>
    obtain ⟨⟨there, hfirst⟩, hrest⟩ := h.uncons
    obtain ⟨rounds, rfl⟩ := Nat.exists_eq_add_one_of_ne_zero (n := rounds) (by omega)
    have hlater := ih hrest rounds (by omega)
    rw [processed] at hlater
    rw [dispatch, Action.run_bind_of_ok _ hfirst, hlater]
    rfl

/-- Dispatching that may not last so long ends because it may not. -/
theorem result_dispatch_of_le (h : bus.FailsAfter n e s) (hrounds : rounds ≤ n) :
    ((bus.dispatch rounds).run s).result = .ok () := by
  induction rounds generalizing n s with
  | zero => rfl
  | succ rounds ih =>
    obtain ⟨n, rfl⟩ := Nat.exists_eq_add_one_of_ne_zero (n := n) (by omega)
    obtain ⟨⟨there, hfirst⟩, hrest⟩ := h.uncons
    rw [dispatch, Action.run_bind_of_ok _ hfirst]
    exact ih hrest (by omega)

/-- Dispatching is seen to process once for each time that passes, whatever the answers are, and
once more. -/
theorem isSeen_dispatch (h : bus.FailsAfter n e s) (hrounds : n < rounds) :
    ∃ answers : List Bool, answers.length = n ∧
      (bus.observed.dispatch rounds).IsSeen (bus.dispatch rounds) s
        (answers.map (fun there => ⟨.process, .ok there⟩) ++ [⟨.process, .error e⟩]) := by
  obtain ⟨rounds, rfl⟩ := Nat.exists_eq_add_one_of_ne_zero (Nat.ne_zero_of_lt hrounds)
  have hseen := Action.isSeen_keep .process bus.process s
  induction n generalizing s rounds with
  | zero =>
    have hfails : (bus.process.run s).result = .error e := h.fails
    rw [hfails] at hseen
    exact ⟨[], rfl, hseen.bind_of_stopped fun there hok => nomatch hfails.symm.trans hok⟩
  | succ n ih =>
    obtain ⟨⟨there, hfirst⟩, hrest⟩ := h.uncons
    obtain ⟨rounds, rfl⟩ := Nat.exists_eq_add_one_of_ne_zero (n := rounds) (by omega)
    obtain ⟨answers, hlength, hlater⟩ :=
      ih hrest rounds (by omega) (Action.isSeen_keep .process bus.process _)
    rw [hfirst] at hseen
    exact ⟨there :: answers, congrArg (· + 1) hlength, hseen.bind_of_ok hfirst hlater⟩

end FailsAfter

/-- A bus with a local bus within it: what it processes the local bus processes, and where it fails
the local bus is left alone. -/
structure Wraps (bus : Bus β ω) (inner : β → LocalBus ω) : Prop where
  passes : ∀ s there, (bus.process.run s).result = .ok there →
    LocalBus.process.run (inner s) =
      ⟨.ok there, (bus.process.run s).effects, inner (bus.processed s)⟩
  fails : ∀ s e, (bus.process.run s).result = .error e →
    (bus.process.run s).effects = [] ∧ inner (bus.processed s) = inner s

/-- The rounds up to the first failure hand on a message each, as long as there are any. -/
theorem Wraps.handOn {inner : β → LocalBus ω} (hwraps : bus.Wraps inner)
    (h : bus.FailsAfter n e s) :
    bus.roundEffects (n + 1) s = (inner s).handOnEffects n ∧
      inner (bus.processed^[n + 1] s) = (inner s).handOn n := by
  induction n generalizing s with
  | zero =>
    obtain ⟨heffects, hstate⟩ := hwraps.fails s e h.fails
    refine ⟨?_, hstate⟩
    rw [roundEffects, heffects]
    rfl
  | succ n ih =>
    obtain ⟨⟨there, hfirst⟩, hrest⟩ := h.uncons
    have hinner := (LocalBus.run_process (inner s)).symm.trans (hwraps.passes s there hfirst)
    have heffects : (inner s).handOnEffects 1 = (bus.process.run s).effects :=
      congrArg Outcome.effects hinner
    have hstate : (inner s).handOn 1 = inner (bus.processed s) := congrArg Outcome.state hinner
    obtain ⟨hlater, hleft⟩ := ih hrest
    rw [← hstate] at hlater hleft
    rw [Nat.add_comm n 1, LocalBus.handOnEffects_add, LocalBus.handOn_add, heffects, ← hlater,
      ← hleft, Nat.add_comm 1 n]
    exact ⟨rfl, rfl⟩

end Bus

namespace LocalBus

/-- Processing again and again hands on one message after the other. -/
theorem iterate_processed (n : ℕ) (b : LocalBus ω) : bus.processed^[n] b = b.handOn n := by
  have hprocessed : ∀ b : LocalBus ω, bus.processed b = b.handOn 1 := fun b =>
    congrArg Outcome.state (run_process b)
  induction n generalizing b with
  | zero => rfl
  | succ n ih =>
    rw [Function.iterate_succ_apply, hprocessed, ih, ← handOn_add, Nat.add_comm 1 n]

/-- No more is handed on than there is. -/
theorem handOn_min (b : LocalBus ω) (n : ℕ) : b.handOn (min n b.queue.length) = b.handOn n := by
  rcases Nat.le_total n b.queue.length with h | h
  · rw [Nat.min_eq_left h]
  · simp only [Nat.min_eq_right h, handOn, List.take_length, List.drop_length,
      List.take_of_length_le h, List.drop_of_length_le h]

theorem handOnEffects_min (b : LocalBus ω) (n : ℕ) :
    b.handOnEffects (min n b.queue.length) = b.handOnEffects n := by
  rcases Nat.le_total n b.queue.length with h | h
  · rw [Nat.min_eq_left h]
  · simp only [Nat.min_eq_right h, handOnEffects, List.take_length, List.take_of_length_le h]

/-- Draining is seen to process once for each message, and once more to find none. -/
theorem isSeen_drain {b : LocalBus ω} {rounds : ℕ} (h : b.queue.length < rounds) :
    (bus.observed.drain rounds).IsSeen (bus.drain rounds) b
      (List.replicate b.queue.length ⟨.process, .ok true⟩ ++ [⟨.process, .ok false⟩]) := by
  induction rounds generalizing b with
  | zero => omega
  | succ rounds ih =>
    have hseen := Action.isSeen_keep .process (bus.process (ω := ω)) b
    have hprocess : bus.process.run b = _ := run_process b
    rw [Bus.drain, Bus.drain]
    cases hqueue : b.queue with
    | nil =>
      have hnone : (bus.process.run b).result = .ok false := by rw [hprocess, hqueue]; rfl
      rw [hnone] at hseen
      exact hseen.bind_of_ok hnone (Action.isSeen_pure 0 _)
    | cons m rest =>
      have hthere : (bus.process.run b).result = .ok true := by rw [hprocess, hqueue]; rfl
      have hlength : (bus.process.run b).state.queue.length = rest.length := by
        rw [hprocess]
        simp [handOn, hqueue]
      rw [hqueue, List.length_cons] at h
      have hlater := ih (b := (bus.process.run b).state) (by omega)
      rw [hlength] at hlater
      rw [hthere] at hseen
      exact hseen.bind_of_ok hthere
        (hlater.bind_of_unseen fun count => Action.isSeen_pure (count + 1))

end LocalBus

/-! ## Buses that last for some rounds -/

namespace Lasting

theorem wraps : (bus (LocalBus.bus (ω := ω))).Wraps Lasting.state where
  passes := by
    rintro ⟨b, _ | rounds⟩ there hok
    · cases hok
    · have hinner : (LocalBus.process.run b).result = .ok there := hok
      rw [← hinner]
      rfl
  fails := by
    rintro ⟨b, _ | rounds⟩ e herror
    · exact ⟨rfl, rfl⟩
    · have hinner : (LocalBus.process.run b).result = .error e := herror
      rw [LocalBus.run_process] at hinner
      cases hinner

/-- A local bus that is given so many rounds fails after them. -/
theorem failsAfter (b : LocalBus ω) (n : ℕ) :
    (bus LocalBus.bus).FailsAfter n gone ⟨b, n⟩ := by
  induction n generalizing b with
  | zero => exact ⟨fun k hk => absurd hk (Nat.not_lt_zero k), rfl⟩
  | succ n ih =>
    have hfirst : ((bus LocalBus.bus).process.run ⟨b, n + 1⟩).result = .ok (!b.queue.isEmpty) :=
      congrArg Outcome.result (LocalBus.run_process b)
    exact .cons hfirst (ih (LocalBus.process.run b).state)

theorem run_dispatch (b : LocalBus ω) (n : ℕ) :
    (dispatch LocalBus.bus n).run b = ⟨.error gone, b.handOnEffects n, b.handOn n⟩ := by
  obtain ⟨heffects, hstate⟩ := wraps.handOn (failsAfter b n)
  have hrun := (failsAfter b n).run_dispatch (Nat.lt_add_one n)
  rw [heffects] at hrun
  simp only [dispatch, hrun, hstate]

end Lasting

/-! ## Pieces -/

/-- A piece of the processing of a queue: one message, dispatching on a bus that lasts for so many
rounds, or whatever is there. -/
inductive Piece where
  | process
  | dispatch (rounds : ℕ)
  | drain

namespace Piece

/-- Processes a piece. That dispatching ends in a failure does not matter. -/
def perform : Piece → Action (LocalBus ω) ClientError ω Unit
  | process => do
    let _ ← LocalBus.process
    return ()
  | dispatch rounds => do
    let _ ← (Action.attempt (Lasting.dispatch LocalBus.bus rounds) :
      Action (LocalBus ω) ClientError ω (Except ClientError Unit))
    return ()
  | drain => do
    let _ ← LocalBus.drain
    return ()

/-- Processes one piece after the other. -/
def performAll : List Piece → Action (LocalBus ω) ClientError ω Unit
  | [] => pure ()
  | piece :: pieces => do
    piece.perform
    performAll pieces

/-- How many messages a piece is for. -/
def size (b : LocalBus ω) : Piece → ℕ
  | process => 1
  | dispatch rounds => rounds
  | drain => b.queue.length

/-- How many messages pieces are for together. -/
def total : LocalBus ω → List Piece → ℕ
  | _, [] => 0
  | b, piece :: pieces => piece.size b + total (piece.perform.run b).state pieces

/-- The runs of handlers that pieces cause, one after the other. -/
def invocations : LocalBus ω → List Piece → List (Invocation ω)
  | _, [] => []
  | b, piece :: pieces =>
    Subscription.invocationsInTurn (b.queue.take (piece.size b)) b.subscriptions ++
      invocations (piece.perform.run b).state pieces

/-- A piece hands on as many messages as it is for. -/
theorem run_perform (piece : Piece) (b : LocalBus ω) :
    piece.perform.run b =
      ⟨.ok (), b.handOnEffects (piece.size b), b.handOn (piece.size b)⟩ := by
  cases piece with
  | process =>
    rw [perform, Action.run_bind_of_ok _ (congrArg Outcome.result (LocalBus.run_process b)),
      LocalBus.run_process, Action.run_pure, List.append_nil]
    rfl
  | dispatch rounds =>
    have hattempt : (Action.attempt (Lasting.dispatch LocalBus.bus rounds) :
        Action (LocalBus ω) ClientError ω (Except ClientError Unit)).run b =
          ⟨.ok (.error Lasting.gone), b.handOnEffects rounds, b.handOn rounds⟩ := by
      simp only [Action.attempt, Lasting.run_dispatch]
    rw [perform, Action.run_bind_of_ok _ (congrArg Outcome.result hattempt), hattempt,
      Action.run_pure, List.append_nil]
    rfl
  | drain =>
    rw [perform, Action.run_bind_of_ok _ (congrArg Outcome.result (LocalBus.run_drain b)),
      LocalBus.run_drain, Action.run_pure, List.append_nil]
    rfl

/-- Pieces hand on as many messages as they are for together, and run the handlers for these. -/
theorem run_performAll (pieces : List Piece) (b : LocalBus ω) :
    (performAll pieces).run b =
        ⟨.ok (), b.handOnEffects (total b pieces), b.handOn (total b pieces)⟩ ∧
      invocations b pieces =
        Subscription.invocationsInTurn (b.queue.take (total b pieces)) b.subscriptions := by
  induction pieces generalizing b with
  | nil => exact ⟨rfl, rfl⟩
  | cons piece pieces ih =>
    have hfirst := run_perform piece b
    obtain ⟨hrest, hinvocations⟩ := ih (piece.perform.run b).state
    rw [performAll, Action.run_bind_of_ok _ (congrArg Outcome.result hfirst), hrest, invocations,
      hinvocations, total, hfirst]
    refine ⟨?_, ?_⟩
    · rw [LocalBus.handOnEffects_add, LocalBus.handOn_add]
    · rw [List.take_add, Subscription.invocationsInTurn_append]
      rfl

/-- Pieces leave nothing in the queue exactly if they are for all of it. -/
theorem queue_performAll_eq_nil_iff (pieces : List Piece) (b : LocalBus ω) :
    ((performAll pieces).run b).state.queue = [] ↔ b.queue.length ≤ total b pieces := by
  rw [(run_performAll pieces b).1]
  exact List.drop_eq_nil_iff

end Piece

namespace LocalBus

/-- **Dispatching and draining.** On every bus, dispatching that may go on for long enough processes
up to and with the first failure, whatever there is to process, and fails with that; it is never
ended by anything but the number of rounds it is given. Over a local bus it has then handed on a
message for each round before the failure, as far as there were any, and left the local bus as
processing so often leaves it. Draining a local bus ends, when it has processed each message and
found no other, with the number of messages and an empty queue. If the processing of a queue is cut
into pieces that leave nothing of it, the handlers run as in one draining, and all is left the
same. -/
theorem dispatched_in_pieces :
    (∀ {β : Type} (bus : Bus β ω) (s : β) (n : ℕ) (e : ClientError), bus.FailsAfter n e s →
      ∀ rounds : ℕ,
        ((((bus.dispatch rounds).mapError ToolError.client).run s).result = .ok () ↔ rounds ≤ n) ∧
        (n < rounds →
          (((bus.dispatch rounds).mapError ToolError.client).run s).result = .error (.client e) ∧
          ∃ answers : List Bool, answers.length = n ∧
            (bus.observed.dispatch rounds).IsSeen (bus.dispatch rounds) s
              (answers.map (fun there => ⟨.process, .ok there⟩) ++ [⟨.process, .error e⟩]))) ∧
    (∀ {β : Type} (bus : Bus β ω) (inner : β → LocalBus ω) (s : β) (n : ℕ) (e : ClientError),
      bus.Wraps inner → bus.FailsAfter n e s → ∀ rounds : ℕ, n < rounds →
        ((bus.dispatch rounds).run s).effects =
          Invocation.effects (Subscription.invocationsInTurn
            ((inner s).queue.take (min n (inner s).queue.length)) (inner s).subscriptions) ∧
        (inner ((bus.dispatch rounds).run s).state).queue =
          (inner s).queue.drop (min n (inner s).queue.length) ∧
        inner ((bus.dispatch rounds).run s).state = LocalBus.bus.processed^[n] (inner s)) ∧
    (∀ (b : LocalBus ω) (rounds : ℕ), b.queue.length < rounds →
      (LocalBus.bus.drain rounds).run b = drain.run b ∧
      (drain.run b).result = .ok b.queue.length ∧ (drain.run b).state.queue = [] ∧
      (LocalBus.bus.observed.drain rounds).IsSeen (LocalBus.bus.drain rounds) b
        (List.replicate b.queue.length ⟨.process, .ok true⟩ ++ [⟨.process, .ok false⟩])) ∧
    ∀ (b : LocalBus ω) (pieces : List Piece),
      ((Piece.performAll pieces).run b).state.queue = [] →
        Piece.invocations b pieces = Piece.invocations b [.drain] ∧
        (Piece.performAll pieces).run b = ⟨.ok (), (drain.run b).effects, (drain.run b).state⟩ := by
  refine ⟨?_, ?_, ?_, ?_⟩
  · intro β bus s n e h rounds
    have hfails : n < rounds →
        (((bus.dispatch rounds).mapError ToolError.client).run s).result = .error (.client e) := by
      intro hrounds
      simp only [Action.mapError, h.run_dispatch hrounds]
      rfl
    refine ⟨⟨fun hok => ?_, fun hrounds => ?_⟩, fun hrounds => ⟨hfails hrounds, ?_⟩⟩
    · by_contra hrounds
      rw [hfails (Nat.lt_of_not_le hrounds)] at hok
      cases hok
    · simp only [Action.mapError, h.result_dispatch_of_le hrounds]
      rfl
    · exact h.isSeen_dispatch hrounds
  · intro β bus inner s n e hwraps h rounds hrounds
    obtain ⟨heffects, hstate⟩ := hwraps.handOn h
    rw [h.run_dispatch hrounds, heffects, hstate, iterate_processed, ← handOnEffects_min,
      ← handOn_min]
    exact ⟨rfl, rfl, rfl⟩
  · intro b rounds hrounds
    have hqueue : (drain.run b).state.queue = [] := by
      rw [run_drain]
      exact List.drop_length
    exact ⟨(run_drain_of_lt hrounds).trans (run_drain b).symm,
      congrArg Outcome.result (run_drain b), hqueue, isSeen_drain hrounds⟩
  · intro b pieces hempty
    have hcovers := (Piece.queue_performAll_eq_nil_iff pieces b).mp hempty
    obtain ⟨hrun, hinvocations⟩ := Piece.run_performAll pieces b
    have hdrained := (Piece.run_performAll [.drain] b).2
    refine ⟨?_, ?_⟩
    · rw [hinvocations, hdrained, List.take_of_length_le hcovers,
        List.take_of_length_le (by exact Nat.le_refl _)]
    · rw [hrun, run_drain, ← handOnEffects_min, ← handOn_min, Nat.min_eq_right hcovers]

/-- Three times wait for two listeners, of which one leaves at the second. -/
def timesWaiting : LocalBus Int32 :=
  LocalBus.initial.after
    ([.subscribe none .timeChanged (.output fun n : Int32 => n),
      .subscribe none .timeChanged ((Handler.output fun n : Int32 => n).leavingAt 2)] ++
    [1, 2, 3].map fun n : Int32 => .emit (SignalKind.timeChanged.message .root n))

/-- Four rounds hand on all of them, though the last finds nothing, and so do three pieces. -/
theorem dispatched_in_pieces_timesWaiting :
    (Lasting.bus bus).FailsAfter 4 Lasting.gone ⟨timesWaiting, 4⟩ ∧
      (Lasting.bus (bus (ω := Int32))).Wraps Lasting.state ∧
      ((((Lasting.bus bus).dispatch 7).mapError ToolError.client).run ⟨timesWaiting, 4⟩).result =
        .error (.client Lasting.gone) ∧
      (((Lasting.bus bus).dispatch 7).run ⟨timesWaiting, 4⟩).state.state.queue = [] ∧
      (bus.drain 9).run timesWaiting = drain.run timesWaiting ∧
      ((Piece.performAll [.dispatch 1, .process, .dispatch 0, .drain]).run timesWaiting).effects =
        (drain.run timesWaiting).effects ∧
      Effect.outputs (drain.run timesWaiting).effects = [1, 1, 2, 2, 3] := by
  have hfails := Lasting.failsAfter timesWaiting 4
  obtain ⟨hdispatch, hover, hdrain, hpieces⟩ := dispatched_in_pieces (ω := Int32)
  obtain ⟨-, hqueue, -⟩ := hover _ _ _ _ _ Lasting.wraps hfails 7 (by decide)
  have hempty : ((Piece.performAll [.dispatch 1, .process, .dispatch 0, .drain]).run
      timesWaiting).state.queue = [] := rfl
  refine ⟨hfails, Lasting.wraps, ((hdispatch _ _ _ _ hfails 7).2 (by decide)).1, ?_,
    (hdrain timesWaiting 9 (by decide)).1, ?_, by decide⟩
  · rw [hqueue]
    rfl
  · rw [(hpieces timesWaiting _ hempty).2]

end LocalBus

end Positioning
