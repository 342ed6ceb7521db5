import Positioning.Pattern.Basic

/-!
# Which patterns are used

A pattern is used if each of its assertions can be decided, and if a machine that recognises it,
with states for each round of its repetitions, does not grow beyond a limit.
-/

namespace Positioning.Pattern

/-- Every assertion of a pattern is decided. -/
def isDecided : Pattern → Bool
  | empty => true
  | set _ => true
  | assert a => a ≠ .anyScriptWord
  | append first second => first.isDecided && second.isDecided
  | either first second => first.isDecided && second.isDecided
  | repeated p _ _ => p.isDecided

/-- The bytes that a state of a machine takes. -/
def stateSize : Nat :=
  32

/-- The bytes of the states that recognise a set. A set that goes beyond ASCII takes states for the
bytes of the characters. -/
def setSize (s : CharSet) : Nat :=
  match s.ranges with
  | [] => stateSize
  | [(low, high)] =>
    if low = high && low < 128 then stateSize
    else if high < 128 then 2 * stateSize + 8
    else if low = high then 4 * stateSize
    else 13 * stateSize
  | ranges => if s.isAscii then 2 * stateSize + 8 * ranges.length else 13 * stateSize

/-- The bytes of the states that recognise a pattern, where rounds of a repetition have states of
their own. -/
def size : Pattern → Nat
  | empty => stateSize
  | set s => setSize s
  | assert _ => stateSize
  | append first second => first.size + second.size
  | either first second => first.size + second.size + 2 * stateSize
  | repeated p least none => max least 1 * p.size + 2 * stateSize
  | repeated p least (some most) =>
    least * p.size + (most - least) * (p.size + stateSize + 8) + stateSize

/-- The largest size of a pattern that is used. -/
def sizeLimit : Nat :=
  10 * 1024 * 1024

/-- A pattern can be used. -/
def isUsable (p : Pattern) : Bool :=
  p.isDecided && p.size ≤ sizeLimit

end Positioning.Pattern
