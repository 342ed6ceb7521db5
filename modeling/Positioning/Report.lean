import Positioning.Decimal.Fixed
import Positioning.Signal

/-!
# What the tools print

One line or block of text for each position, course, set of satellites and list of devices. The
numbers of a position or course line are shown only where the daemon filled them in, with `-1.0`
in place of the others; the raw blocks show what a signal carries, whatever its field word says.
-/

namespace Positioning.Report

/-- The number of decimals of every number but the altitude of a position line. -/
def places : Nat :=
  6

/-- The number of decimals of the altitude of a position line. -/
def altitudePlaces : Nat :=
  1

/-- The line of a position: time, latitude, longitude and altitude. -/
def position (p : Position) : String :=
  Decimal.ofInt p.timestamp.toInt ++ ": " ++
    Decimal.fixed places p.latitude.orSentinel ++ ", " ++
    Decimal.fixed places p.longitude.orSentinel ++ " (" ++
    Decimal.fixed altitudePlaces p.altitude.orSentinel ++ "m)"

/-- The line of a course: time, speed, direction and climb. -/
def course (c : Course) : String :=
  Decimal.ofInt c.timestamp.toInt ++ ": " ++
    Decimal.fixed places c.speed.orSentinel ++ ", " ++
    Decimal.fixed places c.direction.orSentinel ++ ", " ++
    Decimal.fixed places c.climb.orSentinel ++ "m/s"

/-- The block of the numbers that a position signal carries. -/
def rawPosition (s : PositionChanged) : String :=
  "Latitude: " ++ Decimal.fixed places s.latitude ++
    "\nLongitude: " ++ Decimal.fixed places s.longitude ++
    "\nAltitude: " ++ Decimal.fixed places s.altitude

/-- The block of the numbers that a course signal carries. -/
def rawCourse (s : CourseChanged) : String :=
  "Speed: " ++ Decimal.fixed places s.speed ++
    "\nDirection: " ++ Decimal.fixed places s.direction ++
    "\nClimb: " ++ Decimal.fixed places s.climb

/-- The line of one satellite. -/
def satellite (s : Satellite) : String :=
  "  PRN " ++ Decimal.ofNat s.id.toNat ++
    ": elevation " ++ Decimal.ofNat s.elevation.toNat ++
    ", azimuth " ++ Decimal.ofNat s.azimuth.toNat ++
    ", SNR " ++ Decimal.ofNat s.snr.toNat ++
    (if s.inUse then " (in use)" else "")

/-- The block of the satellites in view: a summary, then one line for each. -/
def satellites (view : List Satellite) : String :=
  "\n".intercalate
    ((Decimal.ofNat view.length ++ " satellites, " ++
      Decimal.ofNat (view.filter Satellite.inUse).length ++ " in use") :: view.map satellite)

/-- The lines of devices, numbered from the given number on. -/
def deviceLines : Nat → List String → List String
  | _, [] => []
  | n, device :: rest =>
    ("[" ++ Decimal.ofNat n ++ "] " ++ device) :: deviceLines (n + 1) rest

/-- The list of known devices, one numbered line for each. -/
def devices (known : List String) : String :=
  if known.isEmpty then "No GPS devices found" else "\n".intercalate (deviceLines 1 known)

end Positioning.Report
