/-!
# Double-precision numbers

A double is kept as its 64 bits: nothing in this library computes with one, and the bits tell
signed zeros and the payloads of NaN apart. The magnitude of a finite number is the natural
number `scaled` over the fixed denominator `2 ^ 1075`, which makes decimal rounding a division of
natural numbers.
-/

namespace Positioning

/-- A double-precision number, as the word that encodes it. -/
structure Binary64 where
  bits : UInt64
deriving DecidableEq, Inhabited

namespace Binary64

/-- The sign bit is set. -/
def isNegative (x : Binary64) : Bool :=
  x.bits.toNat / Nat.pow 2 63 = 1

/-- The biased exponent, eleven bits wide. -/
def exponentField (x : Binary64) : Nat :=
  x.bits.toNat / Nat.pow 2 52 % Nat.pow 2 11

/-- The fraction bits of the significand. -/
def fractionField (x : Binary64) : Nat :=
  x.bits.toNat % Nat.pow 2 52

/-- An exponent field of all ones encodes the infinities and NaN. -/
def isFinite (x : Binary64) : Bool :=
  x.exponentField ≠ 2047

/-- Not a number: all exponent bits and some fraction bit are set. -/
def isNaN (x : Binary64) : Bool :=
  x.exponentField = 2047 && x.fractionField ≠ 0

/-- The integral significand: the fraction, with the hidden bit of a normal number. -/
def significand (x : Binary64) : Nat :=
  if x.exponentField = 0 then x.fractionField else Nat.pow 2 52 + x.fractionField

/-- The magnitude of a finite number, as a multiple of `2 ^ -1075`. -/
def scaled (x : Binary64) : Nat :=
  x.significand * Nat.pow 2 (max x.exponentField 1)

/-- The denominator of `scaled`. -/
def scale : Nat :=
  Nat.pow 2 1075

/-- The number `-1.0`. -/
def minusOne : Binary64 :=
  ⟨0xBFF0000000000000⟩

end Binary64

end Positioning
