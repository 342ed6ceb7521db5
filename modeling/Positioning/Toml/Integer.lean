import Positioning.Toml.Text

/-!
# Integers

An integer is written in decimal, with or without a sign, or after `0x`, `0o` or `0b` in another
base. Underscores may stand between digits. Integers have 64 bits.
-/

namespace Positioning.Toml

/-- The characters of numbers and dates. -/
def isNumberChar (c : Char) : Bool :=
  isBare c || c = '+' || c = '.' || c = ':'

/-- The digits of a numeral in a base, underscores left out. The flag tells whether a digit came
last: only then may the numeral end or an underscore come. -/
def digits? (base : Nat) : Bool → List Char → Option (List Nat)
  | afterDigit, [] => if afterDigit then some [] else none
  | afterDigit, c :: rest =>
    if c = '_' then if afterDigit then digits? base false rest else none
    else
      match hexDigit? c with
      | some d => if d < base then (digits? base true rest).map (d :: ·) else none
      | none => none

/-- The number that digits denote in a base. -/
def ofDigits (base : Nat) (ds : List Nat) : Nat :=
  ds.foldl (fun n d => base * n + d) 0

/-- A numeral in a base. -/
def numeral? (base : Nat) (cs : List Char) : Option Nat :=
  (digits? base false cs).map (ofDigits base)

/-- A decimal numeral begins with no zero, unless it is one. -/
def decimal? : List Char → Option Nat
  | ['0'] => some 0
  | '0' :: _ => none
  | cs => numeral? 10 cs

/-- An integer of any size. -/
def anyInteger? : List Char → Option Int
  | '0' :: 'x' :: rest => (numeral? 16 rest).map Int.ofNat
  | '0' :: 'o' :: rest => (numeral? 8 rest).map Int.ofNat
  | '0' :: 'b' :: rest => (numeral? 2 rest).map Int.ofNat
  | '+' :: rest => (decimal? rest).map Int.ofNat
  | '-' :: rest => (decimal? rest).map fun n => -(Int.ofNat n)
  | cs => (decimal? cs).map Int.ofNat

/-- The least integer of 64 bits. -/
def least : Int :=
  -9223372036854775808

/-- The greatest integer of 64 bits. -/
def greatest : Int :=
  9223372036854775807

/-- An integer of 64 bits. -/
def integer? (cs : List Char) : Option Int :=
  match anyInteger? cs with
  | some n => if least ≤ n ∧ n ≤ greatest then some n else none
  | none => none

end Positioning.Toml
