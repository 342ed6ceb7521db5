import Positioning.Bus.Basic

/-!
# Buses that go away

A bus of any kind can be made to last for a number of rounds only: it processes that many times as
it did before, and from then on it fails.
-/

namespace Positioning

/-- A state together with the number of rounds that are left. -/
structure Lasting (β : Type) where
  state : β
  rounds : Nat

namespace Lasting

variable {β ω α : Type}

/-- An action on the state alone. -/
def lift {ε : Type} (x : Action β ε ω α) : Action (Lasting β) ε ω α :=
  ⟨fun b =>
    let outcome := x.run b.state
    ⟨outcome.result, outcome.effects, { b with state := outcome.state }⟩⟩

/-- The failure of a bus that has no rounds left. -/
def gone : ClientError :=
  .other "bus gone"

/-- Processes as before while a round is left. -/
def process (bus : Bus β ω) : Action (Lasting β) ClientError ω Bool :=
  ⟨fun b =>
    match b.rounds with
    | 0 => ⟨.error gone, [], b⟩
    | rounds + 1 => (lift bus.process).run { b with rounds }⟩

/-- The operations of a bus that lasts for as many rounds as its state tells. -/
def bus (inner : Bus β ω) : Bus (Lasting β) ω where
  call c := lift (inner.call c)
  badReply := inner.badReply
  subscribe path? kind handler := lift (inner.subscribe path? kind handler)
  unsubscribe token := lift (inner.unsubscribe token)
  process := process inner

/-- Dispatches on a bus that is given so many rounds, up to and with its failure. -/
def dispatch (inner : Bus β ω) (rounds : Nat) : Action β ClientError ω Unit :=
  ⟨fun b =>
    let outcome := ((bus inner).dispatch (rounds + 1)).run ⟨b, rounds⟩
    ⟨outcome.result, outcome.effects, outcome.state.state⟩⟩

end Lasting

end Positioning
