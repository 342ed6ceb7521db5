import Positioning.Text.Quoted
import Positioning.Wire.Name

/-!
# Crashes

Some mistakes are not reported as errors. Whoever makes them is stopped.
-/

namespace Positioning

/-- The causes for which a program is stopped. -/
inductive Crash where
  /-- A counter of the daemon cannot count on. -/
  | counterFull
  /-- A name is needed, and a text is given that is none. -/
  | badName (e : Wire.BadName)
  /-- A length of time is negative on the wire. -/
  | badTimeout
deriving DecidableEq

namespace Crash

/-- What is said last. -/
def text : Crash → String
  | counterFull => "attempt to add with overflow"
  | badName e => "called `Result::unwrap()` on an `Err` value: " ++ Text.quoted e.message
  | badTimeout => "timeout out of range"

end Crash

end Positioning
