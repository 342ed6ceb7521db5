import Positioning.Binary64

/-!
# Position, course, accuracy, satellites and fix status

A fix carries three numbers and says of each whether the daemon filled it in. `Reading` keeps the
number and the flag together: a number without its flag is not to be shown, yet it is not lost
either. In messages the three flags travel as the low bits of a field word, whose other bits mean
nothing.
-/

namespace Positioning

/-- A number that the daemon reports, and whether it filled it in. -/
structure Reading where
  value : Binary64
  isSet : Bool
deriving DecidableEq

namespace Reading

/-- Nothing has been reported. -/
def unset : Reading :=
  ⟨⟨0⟩, false⟩

/-- The number, where it was filled in. -/
def get? (r : Reading) : Option Binary64 :=
  if r.isSet then some r.value else none

/-- The number, with `-1.0` standing for one that was not filled in. -/
def orSentinel (r : Reading) : Binary64 :=
  r.get?.getD Binary64.minusOne

end Reading

namespace FieldWord

/-- The flag that bit `i` of a field word carries. -/
def flag (fields : Int32) (i : Nat) : Bool :=
  fields.toBitVec.getLsbD i

/-- The field word of three flags. -/
def ofFlags (first second third : Bool) : Int32 :=
  (if first then 1 else 0) + (if second then 2 else 0) + (if third then 4 else 0)

end FieldWord

/-- A position fix. -/
structure Position where
  timestamp : Int32
  latitude : Reading
  longitude : Reading
  altitude : Reading
deriving DecidableEq

/-- A course over ground. -/
structure Course where
  timestamp : Int32
  speed : Reading
  direction : Reading
  climb : Reading
deriving DecidableEq

/-- How far a position may be off. -/
structure Accuracy where
  position : Reading
  horizontal : Reading
  vertical : Reading
deriving DecidableEq

/-- A satellite in view. -/
structure Satellite where
  id : UInt32
  inUse : Bool
  elevation : UInt32
  azimuth : UInt32
  snr : UInt32
deriving DecidableEq

/-- The kind of fix that a device has. -/
inductive FixStatus where
  | invalid
  | noFix
  | fix2D
  | fix3D
deriving DecidableEq

namespace Position

/-- No position has been reported. -/
def unset : Position :=
  ⟨0, .unset, .unset, .unset⟩

/-- The field word of a position. -/
def fields (p : Position) : Int32 :=
  FieldWord.ofFlags p.latitude.isSet p.longitude.isSet p.altitude.isSet

end Position

namespace Course

/-- No course has been reported. -/
def unset : Course :=
  ⟨0, .unset, .unset, .unset⟩

/-- The field word of a course. -/
def fields (c : Course) : Int32 :=
  FieldWord.ofFlags c.speed.isSet c.direction.isSet c.climb.isSet

end Course

namespace Accuracy

/-- No accuracy has been reported. -/
def unset : Accuracy :=
  ⟨.unset, .unset, .unset⟩

/-- The field word of an accuracy. -/
def fields (a : Accuracy) : Int32 :=
  FieldWord.ofFlags a.position.isSet a.horizontal.isSet a.vertical.isSet

end Accuracy

namespace FixStatus

/-- The number that stands for a fix status in messages. -/
def toInt32 : FixStatus → Int32
  | invalid => 0
  | noFix => 1
  | fix2D => 2
  | fix3D => 3

/-- The fix status that a number stands for, if it stands for one. -/
def ofInt32? (n : Int32) : Option FixStatus :=
  if n = 0 then some invalid
  else if n = 1 then some noFix
  else if n = 2 then some fix2D
  else if n = 3 then some fix3D
  else none

/-- The name of a fix status. -/
def name : FixStatus → String
  | invalid => "Invalid"
  | noFix => "None"
  | fix2D => "Fix2D"
  | fix3D => "Fix3D"

end FixStatus

end Positioning
