/-!
# Sets of characters

A set is a list of ranges of code points. The ranges are in ascending order, do not overlap and do
not touch, so that there is one list for each set.
-/

namespace Positioning

/-- A set of characters. -/
structure CharSet where
  ranges : List (Nat × Nat)
deriving DecidableEq

namespace CharSet

/-- The last code point. -/
def last : Nat :=
  0x10FFFF

/-- The set without a character. -/
def empty : CharSet :=
  ⟨[]⟩

/-- The set of all characters. -/
def all : CharSet :=
  ⟨[(0, last)]⟩

/-- Puts a range among ranges, and makes one of those that touch it. -/
def putRange (low high : Nat) : List (Nat × Nat) → List (Nat × Nat)
  | [] => [(low, high)]
  | (l, h) :: rest =>
    if high + 1 < l then (low, high) :: (l, h) :: rest
    else if h + 1 < low then (l, h) :: putRange low high rest
    else putRange (min low l) (max high h) rest

/-- The set of the characters in any of some ranges. -/
def ofRanges (ranges : List (Nat × Nat)) : CharSet :=
  ⟨ranges.foldr (fun r rs => putRange r.1 r.2 rs) []⟩

/-- The set of the characters from one to another. -/
def range (low high : Char) : CharSet :=
  ofRanges [(low.toNat, high.toNat)]

/-- The set of one character. -/
def single (c : Char) : CharSet :=
  range c c

/-- A character is in a set. -/
def contains (s : CharSet) (c : Char) : Bool :=
  s.ranges.any fun r => r.1 ≤ c.toNat && c.toNat ≤ r.2

/-- The characters of either of two sets. -/
def union (s t : CharSet) : CharSet :=
  ofRanges (s.ranges ++ t.ranges)

/-- The ranges between given ones, from a code point on. -/
def gaps (start : Nat) : List (Nat × Nat) → List (Nat × Nat)
  | [] => if start ≤ last then [(start, last)] else []
  | (low, high) :: rest =>
    (if start < low then [(start, low - 1)] else []) ++ gaps (high + 1) rest

/-- The characters that are not in a set. -/
def complement (s : CharSet) : CharSet :=
  ⟨gaps 0 s.ranges⟩

/-- The characters of both of two sets. -/
def inter (s t : CharSet) : CharSet :=
  ofRanges <| s.ranges.flatMap fun r => t.ranges.filterMap fun q =>
    if max r.1 q.1 ≤ min r.2 q.2 then some (max r.1 q.1, min r.2 q.2) else none

/-- The characters of the first of two sets that are not in the second one. -/
def difference (s t : CharSet) : CharSet :=
  s.inter t.complement

/-- The characters of exactly one of two sets. -/
def symmetricDifference (s t : CharSet) : CharSet :=
  (s.difference t).union (t.difference s)

/-- All characters of a set are ASCII. -/
def isAscii (s : CharSet) : Bool :=
  s.ranges.all fun r => r.2 < 128

/-- The part of a range that lies within another one, moved by a distance up or down. -/
def movedPart (low high : Nat) (move : Nat → Nat) (r : Nat × Nat) : Option (Nat × Nat) :=
  if max low r.1 ≤ min high r.2 then some (move (max low r.1), move (min high r.2)) else none

/-- A set with the ASCII letters of both cases wherever it has one of either. -/
def foldCase (s : CharSet) : CharSet :=
  ofRanges (s.ranges ++ s.ranges.filterMap (movedPart 65 90 (· + 32)) ++
    s.ranges.filterMap (movedPart 97 122 (· - 32)))

end CharSet

end Positioning
