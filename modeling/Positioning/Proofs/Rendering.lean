import Mathlib.Algebra.Order.Field.Power
import Mathlib.Algebra.Order.Ring.Rat
import Mathlib.Tactic.FieldSimp
import Mathlib.Tactic.Linarith
import Mathlib.Tactic.NormNum
import Mathlib.Tactic.Positivity
import Mathlib.Tactic.Ring
import Positioning.Report

/-!
# Numbers as they are printed

Every number in a line or a block is the exact value of a double, rounded once to the last printed
decimal. The value is taken from the bits as the standard for floating-point numbers gives it, so
subnormal numbers, numbers with hundreds of digits and ties are rounded as exactly as all others.

## Main definitions

- `Binary64.toRat` is the value of a finite number.
- `Decimal.IsNearestEven` says that an integer is the nearest to a rational number, and the even one
  of two that are equally near.
- `Decimal.Numeral` is a sign, digits, a point and a given number of further digits.
- `Decimal.Renders` says what the text of a number is.

## Main statements

- `Decimal.IsNearestEven.mono`: rounding keeps the order, and so there is one nearest integer.
- `Decimal.renders_fixed`: the text of a number is as it has to be.
- `Report.numbers_exact`: so are all numbers that are printed; they are near, and in order.
-/

namespace Positioning

/-! ## Values -/

namespace Binary64

/-- The magnitude of a finite number. The fraction is a multiple of `2 ^ -52`, and one is added to
it unless the exponent field is zero. -/
def magnitude (x : Binary64) : ℚ :=
  if x.exponentField = 0 then (2 : ℚ) ^ (-1022 : ℤ) * (x.fractionField / (2 : ℚ) ^ (52 : ℤ))
  else (2 : ℚ) ^ ((x.exponentField : ℤ) - 1023) * (1 + x.fractionField / (2 : ℚ) ^ (52 : ℤ))

/-- The value of a finite number; both zeros have the value zero. -/
def toRat (x : Binary64) : ℚ :=
  if x.isNegative then -x.magnitude else x.magnitude

theorem cast_natPow (b n : ℕ) : ((Nat.pow b n : ℕ) : ℚ) = (b : ℚ) ^ (n : ℤ) := by
  rw [Nat.pow_eq, Nat.cast_pow, zpow_natCast]

theorem cast_scale : (scale : ℚ) = (2 : ℚ) ^ (1075 : ℤ) :=
  cast_natPow 2 1075

theorem scale_pos : 0 < scale := by
  have hpos : (0 : ℚ) < scale := by
    rw [cast_scale]
    positivity
  exact_mod_cast hpos

/-- The magnitude is kept as a multiple of `2 ^ -1075`. -/
theorem magnitude_eq (x : Binary64) : x.magnitude = (x.scaled : ℚ) / (scale : ℚ) := by
  have htwo : (2 : ℚ) ≠ 0 := by norm_num
  have hshift : ∀ e : ℤ, (2 : ℚ) ^ (e - 1075) = 2 ^ e / 2 ^ (1075 : ℤ) := fun e =>
    zpow_sub₀ htwo e 1075
  rw [magnitude, scaled, cast_scale, significand]
  simp only [Nat.cast_mul, cast_natPow, Nat.cast_ofNat]
  split
  case isTrue hzero =>
    -- Both sides are the fraction over `2 ^ 1074`.
    have hexponent : (-1022 : ℤ) = 53 - 1075 := by norm_num
    rw [hzero, hexponent, hshift]
    generalize (2 : ℚ) ^ (1075 : ℤ) = denominator
    norm_num
    ring
  case isFalse hnormal =>
    have hmax : max x.exponentField 1 = x.exponentField := by omega
    have hexponent : (x.exponentField : ℤ) - 1023 = (x.exponentField + 52) - 1075 := by ring
    rw [hmax, hexponent, hshift, zpow_add₀ htwo, Nat.cast_add, cast_natPow]
    generalize (2 : ℚ) ^ (1075 : ℤ) = denominator
    have hne : (2 : ℚ) ^ (52 : ℤ) ≠ 0 := zpow_ne_zero _ htwo
    simp only [Nat.cast_ofNat]
    field_simp

end Binary64

namespace Decimal

/-! ## Rounding -/

/-- The integer nearest to a rational number; of two equally near ones the even one. -/
structure IsNearestEven (q : ℚ) (n : ℤ) : Prop where
  near : |q - n| ≤ 1 / 2
  even : |q - n| = 1 / 2 → n % 2 = 0

theorem IsNearestEven.neg {q : ℚ} {n : ℤ} (h : IsNearestEven q n) : IsNearestEven (-q) (-n) := by
  have hsame : |-q - ((-n : ℤ) : ℚ)| = |q - n| := by
    rw [Int.cast_neg, ← neg_sub', abs_neg]
  refine ⟨hsame ▸ h.near, fun htie => ?_⟩
  have heven := h.even (hsame ▸ htie)
  omega

/-- Rounding keeps the order. -/
theorem IsNearestEven.mono {q r : ℚ} {n m : ℤ} (hq : IsNearestEven q n) (hr : IsNearestEven r m)
    (h : q ≤ r) : n ≤ m := by
  by_contra hlt
  -- The two can only be neighbours, with both numbers half way between them.
  have hstep : (m : ℚ) + 1 ≤ n := by exact_mod_cast not_le.mp hlt
  obtain ⟨hq₁, hq₂⟩ := abs_le.mp hq.near
  obtain ⟨hr₁, hr₂⟩ := abs_le.mp hr.near
  have hqTie : |q - n| = 1 / 2 := by
    rw [abs_of_nonpos (by linarith)]
    linarith
  have hrTie : |r - m| = 1 / 2 := by
    rw [abs_of_nonneg (by linarith)]
    linarith
  have hnext : (n : ℚ) = m + 1 := by linarith
  have hnext' : n = m + 1 := by exact_mod_cast hnext
  have hn := hq.even hqTie
  have hm := hr.even hrTie
  omega

/-- What is half way between two numbers is rounded to the even one. -/
theorem even_roundDiv {n d : ℕ} (hd : 0 < d)
    (h : 2 * n = 2 * (roundDiv n d * d) + d ∨ 2 * n + d = 2 * (roundDiv n d * d)) :
    roundDiv n d % 2 = 0 := by
  have hn := Nat.div_add_mod n d
  have hr := Nat.mod_lt n hd
  rw [Nat.mul_comm] at hn
  revert h
  rw [roundDiv]
  split
  case isTrue hup =>
    rw [Nat.add_mul, Nat.one_mul]
    omega
  case isFalse hdown => omega

/-- The quotient of natural numbers is rounded to the nearest, ties to even. -/
theorem isNearestEven_roundDiv (n : ℕ) {d : ℕ} (hd : 0 < d) :
    IsNearestEven ((n : ℚ) / d) (roundDiv n d) := by
  -- The bounds are those for natural numbers, divided by the denominator.
  have hpos : (0 : ℚ) < d := by exact_mod_cast hd
  have hcast : (((roundDiv n d : ℕ) : ℤ) : ℚ) = (roundDiv n d : ℚ) := Int.cast_natCast _
  have hscaled : (n : ℚ) / d - ((roundDiv n d : ℕ) : ℤ) = (n - roundDiv n d * d) / d := by
    rw [hcast]
    field_simp
  obtain ⟨habove, hbelow⟩ := roundDiv_near n hd
  have habove' : (2 : ℚ) * (roundDiv n d * d) ≤ 2 * n + d := by exact_mod_cast habove
  have hbelow' : (2 : ℚ) * n ≤ 2 * (roundDiv n d * d) + d := by exact_mod_cast hbelow
  constructor
  · rw [hscaled, abs_le, le_div_iff₀ hpos, div_le_iff₀ hpos]
    constructor <;> linarith
  · intro htie
    rw [hscaled, abs_eq (by norm_num), div_eq_iff hpos.ne', div_eq_iff hpos.ne'] at htie
    have heven := even_roundDiv hd (n := n) (htie.imp
      (fun h => by exact_mod_cast (by linarith : (2 : ℚ) * n = 2 * (roundDiv n d * d) + d))
      (fun h => by exact_mod_cast (by linarith : (2 : ℚ) * n + d = 2 * (roundDiv n d * d))))
    omega

/-! ## Numerals -/

/-- A numeral with a given number of decimals. -/
structure Numeral (places : ℕ) where
  negative : Bool
  whole : List Char
  fraction : List Char
  whole_ne_nil : whole ≠ []
  isDigit : ∀ c ∈ whole ++ fraction, c.isDigit = true
  no_leading_zero : whole.head? = some '0' → whole = ['0']
  length_fraction : fraction.length = places

namespace Numeral

variable {places : ℕ}

/-- The text of a numeral: a minus sign if it is negative, and the digits with the point between. -/
def text (n : Numeral places) : String :=
  String.ofList ((if n.negative then ['-'] else []) ++ n.whole ++ '.' :: n.fraction)

/-- What the digits denote without the point. -/
def units (n : Numeral places) : ℕ :=
  value (n.whole ++ n.fraction)

def signedUnits (n : Numeral places) : ℤ :=
  if n.negative then -n.units else n.units

/-- The number that a numeral denotes. -/
def toRat (n : Numeral places) : ℚ :=
  n.signedUnits / 10 ^ places

end Numeral

theorem isDigit_digit {n : ℕ} (h : n < 10) : (digit n).isDigit = true := by
  revert n
  decide

theorem isDigit_of_mem_digits (n : ℕ) : ∀ c ∈ digits n, c.isDigit = true := by
  induction n using Nat.strongRecOn with
  | _ n ih =>
    rw [digits]
    split
    case isTrue hlt => simpa using isDigit_digit hlt
    case isFalse hge =>
      intro c hc
      rcases List.mem_append.mp hc with hfront | hlast
      · exact ih (n / 10) (by omega) c hfront
      · rw [List.mem_singleton.mp hlast]
        exact isDigit_digit (Nat.mod_lt n (by decide))

theorem isDigit_of_mem_padded (width n : ℕ) : ∀ c ∈ padded width n, c.isDigit = true := by
  induction width generalizing n with
  | zero => simp [padded]
  | succ width ih =>
    intro c hc
    rcases List.mem_append.mp hc with hfront | hlast
    · exact ih (n / 10) c hfront
    · rw [List.mem_singleton.mp hlast]
      exact isDigit_digit (Nat.mod_lt n (by decide))

theorem digits_ne_nil (n : ℕ) : digits n ≠ [] := by
  rw [digits]
  split <;> simp

/-- Only the digits of zero start with a zero. -/
theorem eq_zero_of_head?_digits {n : ℕ} (h : (digits n).head? = some '0') : n = 0 := by
  induction n using Nat.strongRecOn with
  | _ n ih =>
    rw [digits] at h
    split at h
    case isTrue hlt =>
      have hcode := congrArg Char.toNat (Option.some.inj h)
      rw [toNat_digit hlt] at hcode
      have hzero : '0'.toNat = 48 := by decide
      omega
    case isFalse hge =>
      rw [List.head?_append_of_ne_nil _ (digits_ne_nil _)] at h
      have hzero := ih (n / 10) (by omega) h
      omega

/-- Digits count ten times as much for every digit behind them. -/
theorem value_append (cs ds : List Char) :
    value (cs ++ ds) = value cs * 10 ^ ds.length + value ds := by
  have hfoldl : ∀ start, ds.foldl (fun n c => 10 * n + (c.toNat - 48)) start =
      start * 10 ^ ds.length + value ds := by
    induction ds with
    | nil => simp [value]
    | cons d ds ih =>
      intro start
      rw [value, List.foldl_cons, List.foldl_cons, ih, ih, List.length_cons]
      ring
  rw [value, List.foldl_append]
  exact hfoldl _

/-- The numeral of a number of units of `10 ^ -places`. -/
def numeral (negative : Bool) (places n : ℕ) : Numeral places where
  negative := negative
  whole := digits (n / Nat.pow 10 places)
  fraction := padded places n
  whole_ne_nil := digits_ne_nil _
  isDigit c hc := (List.mem_append.mp hc).elim (isDigit_of_mem_digits _ c)
    (isDigit_of_mem_padded _ _ c)
  no_leading_zero h := by
    rw [eq_zero_of_head?_digits h, digits, if_pos (by decide)]
    rfl
  length_fraction := length_padded _ _

theorem units_numeral (negative : Bool) (places n : ℕ) : (numeral negative places n).units = n := by
  rw [Numeral.units, numeral, value_append, value_digits, value_padded, length_padded,
    Nat.pow_eq, Nat.mul_comm]
  exact Nat.div_add_mod n _

theorem text_numeral (negative : Bool) (places n : ℕ) :
    (numeral negative places n).text =
      String.ofList ((if negative then ['-'] else []) ++ point places n) := by
  rw [Numeral.text, numeral, point, List.append_assoc]

namespace Numeral

variable {places : ℕ} {n m : Numeral places}

theorem not_mem_digits (n : Numeral places) {c : Char} (hc : c.isDigit = false) :
    c ∉ n.whole ∧ c ∉ n.fraction := by
  constructor <;> intro hmem
  · simp [n.isDigit c (List.mem_append_left _ hmem)] at hc
  · simp [n.isDigit c (List.mem_append_right _ hmem)] at hc

/-- A text starts with a minus sign if its numeral is negative. -/
theorem head?_text (n : Numeral places) : n.text.toList.head? = some '-' ↔ n.negative = true := by
  obtain ⟨c, rest, hwhole⟩ := List.exists_cons_of_ne_nil n.whole_ne_nil
  have hsign : c ≠ '-' := by
    rintro rfl
    exact (n.not_mem_digits (by decide : '-'.isDigit = false)).1 (by simp [hwhole])
  rw [text, String.toList_ofList, hwhole]
  cases n.negative <;> simp [hsign]

/-- Signs and points are no digits, so a text is that of one numeral. -/
theorem eq_of_text_eq (h : n.text = m.text) : n = m := by
  have hsigns : n.negative = m.negative := by
    rw [Bool.eq_iff_iff, ← head?_text, ← head?_text, h]
  -- Once the signs are gone, the one point tells where the decimals start.
  have hlists := String.ofList_injective h
  rw [hsigns, List.append_assoc, List.append_assoc] at hlists
  obtain ⟨hnWhole, hnFraction⟩ := n.not_mem_digits (by decide : '.'.isDigit = false)
  obtain ⟨hwhole, _, hfraction⟩ :=
    (List.append_cons_inj_of_notMem hnWhole hnFraction).mp (List.append_cancel_left hlists)
  cases n
  cases m
  simp_all

end Numeral

/-! ## Texts -/

/-- What the text of a number with a given number of decimals is. -/
structure Renders (places : ℕ) (x : Binary64) (text : String) : Prop where
  nan : x.isNaN = true → text = "NaN"
  infinite : x.isFinite = false → x.isNaN = false → text = if x.isNegative then "-inf" else "inf"
  finite : x.isFinite = true → ∃ n : Numeral places, text = n.text ∧ n.negative = x.isNegative ∧
    IsNearestEven (x.magnitude * 10 ^ places) n.units

theorem isNearestEven_units (places : ℕ) (x : Binary64) :
    IsNearestEven (x.magnitude * 10 ^ places) (units places x) := by
  have hround := isNearestEven_roundDiv (x.scaled * Nat.pow 10 places) Binary64.scale_pos
  rw [Nat.cast_mul, Nat.pow_eq, Nat.cast_pow, mul_div_right_comm, ← Binary64.magnitude_eq] at hround
  exact_mod_cast hround

theorem fixed_eq_text (places : ℕ) {x : Binary64} (h : x.isFinite = true) :
    fixed places x = (numeral x.isNegative places (units places x)).text := by
  have hnan : x.isNaN = false := by
    simp only [Binary64.isFinite, decide_eq_true_eq] at h
    simp [Binary64.isNaN, h]
  rw [text_numeral, fixed, fixedDigits, if_neg (by simp [hnan]), if_pos h]

/-- The text of a number is as it has to be. -/
theorem renders_fixed (places : ℕ) (x : Binary64) : Renders places x (fixed places x) := by
  constructor
  · intro hnan
    simp [fixed, fixedDigits, hnan]
  · intro hinfinite hnan
    simp only [fixed, fixedDigits, hnan, hinfinite, Bool.false_eq_true, if_false]
    cases x.isNegative <;> rfl
  · intro hfinite
    refine ⟨numeral x.isNegative places (units places x), fixed_eq_text places hfinite, rfl, ?_⟩
    rw [units_numeral]
    exact isNearestEven_units places x

/-- A text that renders a finite number is a numeral of the nearest number of units. -/
theorem Renders.isNearestEven {places : ℕ} {x : Binary64} {n : Numeral places}
    (h : Renders places x n.text) (hfinite : x.isFinite = true) :
    IsNearestEven (x.toRat * 10 ^ places) n.signedUnits := by
  obtain ⟨k, htext, hsign, hnear⟩ := h.finite hfinite
  obtain rfl := Numeral.eq_of_text_eq htext
  rw [Numeral.signedUnits, Binary64.toRat, hsign]
  split
  · rw [neg_mul]
    exact hnear.neg
  · exact hnear

/-- What is printed is at most half a unit of the last decimal away. -/
theorem Renders.near {places : ℕ} {x : Binary64} {n : Numeral places}
    (h : Renders places x n.text) (hfinite : x.isFinite = true) :
    |n.toRat - x.toRat| ≤ 1 / 2 / 10 ^ places := by
  have hpos : (0 : ℚ) < 10 ^ places := by positivity
  have hsplit : n.toRat - x.toRat = -((x.toRat * 10 ^ places - n.signedUnits) / 10 ^ places) := by
    rw [Numeral.toRat]
    field_simp
    ring
  rw [hsplit, abs_neg, abs_div, abs_of_pos hpos]
  exact div_le_div_of_nonneg_right (h.isNearestEven hfinite).near hpos.le

/-- What is printed is in the order of the numbers. -/
theorem Renders.mono {places : ℕ} {x y : Binary64} {n m : Numeral places}
    (hx : Renders places x n.text) (hy : Renders places y m.text) (hfinite : x.isFinite = true)
    (hfinite' : y.isFinite = true) (hle : x.toRat ≤ y.toRat) : n.toRat ≤ m.toRat := by
  have hpos : (0 : ℚ) < 10 ^ places := by positivity
  have hunits : n.signedUnits ≤ m.signedUnits :=
    (hx.isNearestEven hfinite).mono (hy.isNearestEven hfinite')
      (mul_le_mul_of_nonneg_right hle hpos.le)
  have hcast : (n.signedUnits : ℚ) ≤ m.signedUnits := by exact_mod_cast hunits
  exact div_le_div_of_nonneg_right hcast hpos.le

end Decimal

namespace Report

open Decimal

/-- **Numbers as they are printed.** The numbers in the line of a position, the line of a course and
the two blocks are rendered with six decimals, the altitude of a line with one: a minus sign exactly
for the sign bit, digits without superfluous zeros, a point and the decimals, which are together the
exact value rounded to the nearest, ties to even; or the text of an infinity, or of what is no
number. So what is printed is at most half a unit of the last decimal away from the value, and it is
in order when the values are. -/
theorem numbers_exact :
    (∀ p : Position, ∃ latitude longitude altitude : String,
      position p = Decimal.ofInt p.timestamp.toInt ++ ": " ++ latitude ++ ", " ++ longitude ++
        " (" ++ altitude ++ "m)" ∧
      Renders 6 p.latitude.orSentinel latitude ∧ Renders 6 p.longitude.orSentinel longitude ∧
      Renders 1 p.altitude.orSentinel altitude) ∧
    (∀ c : Course, ∃ speed direction climb : String,
      course c = Decimal.ofInt c.timestamp.toInt ++ ": " ++ speed ++ ", " ++ direction ++ ", " ++
        climb ++ "m/s" ∧
      Renders 6 c.speed.orSentinel speed ∧ Renders 6 c.direction.orSentinel direction ∧
      Renders 6 c.climb.orSentinel climb) ∧
    (∀ s : PositionChanged, ∃ latitude longitude altitude : String,
      rawPosition s = "Latitude: " ++ latitude ++ "\nLongitude: " ++ longitude ++ "\nAltitude: " ++
        altitude ∧
      Renders 6 s.latitude latitude ∧ Renders 6 s.longitude longitude ∧
      Renders 6 s.altitude altitude) ∧
    (∀ s : CourseChanged, ∃ speed direction climb : String,
      rawCourse s = "Speed: " ++ speed ++ "\nDirection: " ++ direction ++ "\nClimb: " ++ climb ∧
      Renders 6 s.speed speed ∧ Renders 6 s.direction direction ∧ Renders 6 s.climb climb) ∧
    ∀ (places : ℕ) (x y : Binary64) (n m : Numeral places), x.isFinite = true → y.isFinite = true →
      Renders places x n.text → Renders places y m.text →
      |n.toRat - x.toRat| ≤ 1 / 2 / 10 ^ places ∧ (x.toRat ≤ y.toRat → n.toRat ≤ m.toRat) := by
  refine ⟨fun p => ?_, fun c => ?_, fun s => ?_, fun s => ?_, ?_⟩
  · exact ⟨_, _, _, rfl, renders_fixed _ _, renders_fixed _ _, renders_fixed _ _⟩
  · exact ⟨_, _, _, rfl, renders_fixed _ _, renders_fixed _ _, renders_fixed _ _⟩
  · exact ⟨_, _, _, rfl, renders_fixed _ _, renders_fixed _ _, renders_fixed _ _⟩
  · exact ⟨_, _, _, rfl, renders_fixed _ _, renders_fixed _ _, renders_fixed _ _⟩
  · intro places x y n m hx hy hn hm
    exact ⟨hn.near hx, hn.mono hm hx hy⟩

/-- A quarter and three quarters, both half way between two tenths. -/
def quarter : Binary64 :=
  ⟨0x3FD0000000000000⟩

def threeQuarters : Binary64 :=
  ⟨0x3FE8000000000000⟩

/-- The one is rounded down to two tenths and the other up to eight. -/
theorem numbers_exact_quarters :
    (quarter.isFinite = true ∧ threeQuarters.isFinite = true) ∧
    (Renders 1 quarter (numeral false 1 2).text ∧
      Renders 1 threeQuarters (numeral false 1 8).text) ∧
    |(numeral false 1 2).toRat - quarter.toRat| ≤ 1 / 2 / 10 ^ 1 ∧
    quarter.toRat ≤ threeQuarters.toRat ∧
    (numeral false 1 2).toRat ≤ (numeral false 1 8).toRat := by
  have hfinite : quarter.isFinite = true ∧ threeQuarters.isFinite = true := by decide
  have hrenders : Renders 1 quarter (numeral false 1 2).text ∧
      Renders 1 threeQuarters (numeral false 1 8).text := by
    have hquarter : units 1 quarter = 2 := by decide +kernel
    have hthree : units 1 threeQuarters = 8 := by decide +kernel
    have hleft := fixed_eq_text 1 hfinite.1
    have hright := fixed_eq_text 1 hfinite.2
    rw [hquarter] at hleft
    rw [hthree] at hright
    exact ⟨hleft ▸ renders_fixed 1 quarter, hright ▸ renders_fixed 1 threeQuarters⟩
  have hle : quarter.toRat ≤ threeQuarters.toRat := by
    have hquarter : quarter.isNegative = false ∧ quarter.exponentField = 1021 ∧
        quarter.fractionField = 0 := by decide
    have hthree : threeQuarters.isNegative = false ∧ threeQuarters.exponentField = 1022 ∧
        threeQuarters.fractionField = 2251799813685248 := by decide
    simp only [Binary64.toRat, Binary64.magnitude, hquarter, hthree]
    norm_num
  obtain ⟨hnear, hordered⟩ :=
    numbers_exact.2.2.2.2 1 _ _ _ _ hfinite.1 hfinite.2 hrenders.1 hrenders.2
  exact ⟨hfinite, hrenders, hnear, hle, hordered hle⟩

end Report

end Positioning
