import Positioning.Crash
import Positioning.Log.Record

/-!
# Actions on a bus

An action runs from the state of a bus. It gives a value, or fails with an error, or crashes;
however it ends, it leaves a state and the effects it had: what it wrote to the log and what was put
out. Effects and state changes of a failed action stay.

## Main definitions

- `Effect` is one visible effect: an output or a log record.
- `Ending` is the result of a run: a value, an error or a crash.
- `Outcome` is what is left of a run: result, effects in order, and state.
- `Action` is a function to outcomes, with the usual sequencing: the first failure ends a sequence.
  An error may be caught with `Action.attempt`; a crash may not.
-/

namespace Positioning

/-- A visible effect: something put out, or a log record. -/
inductive Effect (ω : Type) where
  | output (value : ω)
  | record (r : Log.Record)

namespace Effect

/-- What was put out, in order. -/
def outputs {ω : Type} : List (Effect ω) → List ω
  | [] => []
  | output value :: rest => value :: outputs rest
  | record _ :: rest => outputs rest

/-- Outputs come in the order of the effects. -/
@[simp] theorem outputs_append {ω : Type} (xs ys : List (Effect ω)) :
    outputs (xs ++ ys) = outputs xs ++ outputs ys := by
  induction xs with
  | nil => rfl
  | cons x xs ih => cases x <;> simp [outputs, ih]

/-- The log records, in order. -/
def records {ω : Type} : List (Effect ω) → List Log.Record
  | [] => []
  | output _ :: rest => records rest
  | record r :: rest => r :: records rest

/-- Records come in the order of the effects. -/
@[simp] theorem records_append {ω : Type} (xs ys : List (Effect ω)) :
    records (xs ++ ys) = records xs ++ records ys := by
  induction xs with
  | nil => rfl
  | cons x xs ih => cases x <;> simp [records, ih]

end Effect

/-- How a run ends. -/
inductive Ending (ε α : Type) where
  | ok (a : α)
  | error (e : ε)
  | crash (c : Crash)

namespace Ending

variable {ε α : Type}

/-- A run that gives a value or fails. -/
def ofExcept : Except ε α → Ending ε α
  | .ok a => ok a
  | .error e => error e

/-- The same ending with its error in other words. -/
def mapError {ε' : Type} (f : ε → ε') : Ending ε α → Ending ε' α
  | ok a => ok a
  | error e => error (f e)
  | crash c => crash c

end Ending

/-- What is left of a run. -/
structure Outcome (β ε ω α : Type) where
  result : Ending ε α
  effects : List (Effect ω)
  state : β

/-- A computation on a bus in a state of type `β` that fails with an `ε` or gives an `α`. -/
structure Action (β ε ω α : Type) where
  run : β → Outcome β ε ω α

namespace Action

variable {β ε ω α γ : Type}

/-- Gives a value and does nothing. -/
def pure (a : α) : Action β ε ω α :=
  ⟨fun s => ⟨.ok a, [], s⟩⟩

/-- Runs an action and goes on with its value; an error or a crash ends the sequence. -/
def bind (x : Action β ε ω α) (f : α → Action β ε ω γ) : Action β ε ω γ :=
  ⟨fun s =>
    let first := x.run s
    match first.result with
    | .error e => ⟨.error e, first.effects, first.state⟩
    | .crash c => ⟨.crash c, first.effects, first.state⟩
    | .ok a =>
      let second := (f a).run first.state
      ⟨second.result, first.effects ++ second.effects, second.state⟩⟩

instance : Monad (Action β ε ω) where
  pure := Action.pure
  bind := Action.bind

/-- Giving a value does nothing. -/
@[simp] theorem run_pure (a : α) (s : β) :
    (Pure.pure a : Action β ε ω α).run s = ⟨.ok a, [], s⟩ :=
  rfl

/-- A sequence whose first part fails ends there. -/
theorem run_bind_of_error {x : Action β ε ω α} {s : β} {e : ε} (f : α → Action β ε ω γ)
    (h : (x.run s).result = .error e) :
    (x >>= f).run s = ⟨.error e, (x.run s).effects, (x.run s).state⟩ := by
  show (Action.bind x f).run s = _
  simp [Action.bind, h]

/-- A sequence whose first part crashes ends there. -/
theorem run_bind_of_crash {x : Action β ε ω α} {s : β} {c : Crash} (f : α → Action β ε ω γ)
    (h : (x.run s).result = .crash c) :
    (x >>= f).run s = ⟨.crash c, (x.run s).effects, (x.run s).state⟩ := by
  show (Action.bind x f).run s = _
  simp [Action.bind, h]

/-- A sequence whose first part gives a value goes on with it from the state that is left. -/
theorem run_bind_of_ok {x : Action β ε ω α} {s : β} {a : α} (f : α → Action β ε ω γ)
    (h : (x.run s).result = .ok a) :
    (x >>= f).run s =
      ⟨((f a).run (x.run s).state).result,
        (x.run s).effects ++ ((f a).run (x.run s).state).effects,
        ((f a).run (x.run s).state).state⟩ := by
  show (Action.bind x f).run s = _
  simp [Action.bind, h]

/-- Gives a value or fails, and does nothing. -/
def ofExcept (r : Except ε α) : Action β ε ω α :=
  ⟨fun s => ⟨.ofExcept r, [], s⟩⟩

/-- Fails and does nothing. -/
def fail (e : ε) : Action β ε ω α :=
  ofExcept (.error e)

/-- Crashes and does nothing. -/
def crash (c : Crash) : Action β ε ω α :=
  ⟨fun s => ⟨.crash c, [], s⟩⟩

/-- Gives the state. -/
def state : Action β ε ω β :=
  ⟨fun s => ⟨.ok s, [], s⟩⟩

/-- Writes a log record. -/
def log (level : Log.Level) (source : Log.Source) (text : String) : Action β ε ω Unit :=
  ⟨fun s => ⟨.ok (), [.record ⟨level, source, text⟩], s⟩⟩

/-- Puts a value out. -/
def output (value : ω) : Action β ε ω Unit :=
  ⟨fun s => ⟨.ok (), [.output value], s⟩⟩

/-- Reports a failure in other words. -/
def mapError {ε' : Type} (f : ε → ε') (x : Action β ε ω α) : Action β ε' ω α :=
  ⟨fun s =>
    let outcome := x.run s
    ⟨outcome.result.mapError f, outcome.effects, outcome.state⟩⟩

/-- Runs an action and gives its value or its error as a value; what it did stays done. -/
def attempt {ε' : Type} (x : Action β ε ω α) : Action β ε' ω (Except ε α) :=
  ⟨fun s =>
    let outcome := x.run s
    let result := match outcome.result with
      | .ok a => .ok (.ok a)
      | .error e => .ok (.error e)
      | .crash c => .crash c
    ⟨result, outcome.effects, outcome.state⟩⟩

/-- Runs an action on a state of its own. -/
def on (s : γ) (x : Action γ ε ω α) : Action β ε ω α :=
  ⟨fun b =>
    let outcome := x.run s
    ⟨outcome.result, outcome.effects, b⟩⟩

end Action

end Positioning
