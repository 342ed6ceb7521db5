/-!
# Decimal numerals

The text of natural numbers and integers, and numerals of a given width. `value` reads a numeral
back; `value_digits` and `value_padded` say that nothing is lost.
-/

namespace Positioning.Decimal

/-- The character of a digit below ten. -/
def digit (n : Nat) : Char :=
  Char.ofNat (48 + n)

/-- The decimal digits of `n`, most significant first and without leading zeros. -/
def digits (n : Nat) : List Char :=
  if n < 10 then [digit n] else digits (n / 10) ++ [digit (n % 10)]
termination_by n

/-- The last `width` decimal digits of `n`, with leading zeros where `n` has fewer. -/
def padded : Nat → Nat → List Char
  | 0, _ => []
  | width + 1, n => padded width (n / 10) ++ [digit (n % 10)]

/-- The number that a list of decimal digits denotes. -/
def value (cs : List Char) : Nat :=
  cs.foldl (fun n c => 10 * n + (c.toNat - 48)) 0

/-- The text of a natural number. -/
def ofNat (n : Nat) : String :=
  String.ofList (digits n)

/-- The text of an integer, with a minus sign before the digits of a negative one. -/
def ofInt (n : Int) : String :=
  if n < 0 then "-" ++ ofNat n.natAbs else ofNat n.natAbs

/-- A digit character carries the number it was made from. -/
theorem toNat_digit {n : Nat} (h : n < 10) : (digit n).toNat = 48 + n := by
  have hvalid : Nat.isValidChar (48 + n) := Or.inl (by omega)
  rw [digit, Char.ofNat, dif_pos hvalid]
  rfl

/-- One more digit on the right multiplies the value by ten and adds the digit. -/
theorem value_append_digit (cs : List Char) {n : Nat} (h : n < 10) :
    value (cs ++ [digit n]) = 10 * value cs + n := by
  simp only [value, List.foldl_append, List.foldl_cons, List.foldl_nil, toNat_digit h]
  omega

/-- The digits of a number denote it. -/
theorem value_digits (n : Nat) : value (digits n) = n := by
  induction n using Nat.strongRecOn with
  | _ n ih =>
    rw [digits]
    split
    case isTrue h => simpa [value] using value_append_digit [] h
    case isFalse h =>
      rw [value_append_digit _ (Nat.mod_lt n (by decide)), ih (n / 10) (by omega)]
      omega

/-- A padded numeral has the width asked for. -/
theorem length_padded (width n : Nat) : (padded width n).length = width := by
  induction width generalizing n with
  | zero => rfl
  | succ width ih => simp [padded, ih]

/-- A padded numeral denotes the number up to the width. -/
theorem value_padded (width n : Nat) : value (padded width n) = n % Nat.pow 10 width := by
  induction width generalizing n with
  | zero => simp [padded, value, Nat.mod_one]
  | succ width ih =>
    have hstep : Nat.pow 10 (width + 1) = 10 * Nat.pow 10 width := Nat.mul_comm ..
    rw [padded, value_append_digit _ (Nat.mod_lt n (by decide)), ih, hstep, Nat.mod_mul]
    omega

end Positioning.Decimal
