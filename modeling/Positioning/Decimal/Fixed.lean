import Positioning.Binary64
import Positioning.Decimal

/-!
# Decimal text with a fixed number of places

`fixed` writes a double with exactly the given number of decimals. The exact binary value is
rounded, a tie goes to the even last digit, and there is never an exponent. The sign bit alone
decides about the minus sign, so `-0.0` and negative numbers that round to zero keep it.
-/

namespace Positioning.Decimal

/-- The natural number nearest to `n / d`; of two equally near ones the even one. -/
def roundDiv (n d : Nat) : Nat :=
  if d < 2 * (n % d) ∨ (2 * (n % d) = d ∧ n / d % 2 = 1) then n / d + 1 else n / d

/-- The numeral of `units / 10 ^ places`, with exactly `places` decimals. -/
def point (places units : Nat) : List Char :=
  digits (units / Nat.pow 10 places) ++ '.' :: padded places units

/-- The magnitude of a finite number, rounded to units of `10 ^ -places`. -/
def units (places : Nat) (x : Binary64) : Nat :=
  roundDiv (x.scaled * Nat.pow 10 places) Binary64.scale

/-- The characters of a number with `places` decimals. -/
def fixedDigits (places : Nat) (x : Binary64) : List Char :=
  if x.isNaN then ['N', 'a', 'N']
  else
    (if x.isNegative then ['-'] else []) ++
      (if x.isFinite then point places (units places x) else ['i', 'n', 'f'])

/-- The text of a number with `places` decimals. -/
def fixed (places : Nat) (x : Binary64) : String :=
  String.ofList (fixedDigits places x)

/-- Rounding a quotient moves it by at most half a unit. -/
theorem roundDiv_near (n : Nat) {d : Nat} (h : 0 < d) :
    2 * (roundDiv n d * d) ≤ 2 * n + d ∧ 2 * n ≤ 2 * (roundDiv n d * d) + d := by
  have hn := Nat.div_add_mod n d
  have hr := Nat.mod_lt n h
  rw [Nat.mul_comm] at hn
  rw [roundDiv]
  split
  case isTrue hup =>
    rw [Nat.add_mul, Nat.one_mul]
    omega
  case isFalse hdown => omega

end Positioning.Decimal
