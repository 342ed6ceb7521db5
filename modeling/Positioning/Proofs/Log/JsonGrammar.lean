import Mathlib.Data.List.Basic
import Positioning.Toml.Text

/-!
# The grammar of JSON

Which texts spell a JSON value, and which value. The relations here take a text apart from the
front: each relates what is read, the text that is read from, and the rest behind it. Nothing in
them is about how a text was put together, and a text spells one value at most.

Numerals are kept as they are spelled. Strings are texts, so a half of a surrogate pair, which
stands for no character, is not read. The members of an object are in order, and a key may come
twice.

## Main definitions

- `Json.Value` is a JSON value.
- `Json.Reads` relates a value, a text that begins with its spelling, and the rest of that text.
- `Json.Spells` says that a text spells a value, with white space around it or not.

## Main statements

- `Json.Reads.unique`: what is read is determined by the text.
- `Json.Spells.unique`: a text spells one value at most.
-/

namespace Positioning.Log.Json

/-- A JSON value. -/
inductive Value where
  | null
  | bool (b : Bool)
  | number (numeral : String)
  | string (text : String)
  | array (items : List Value)
  | object (members : List (String × Value))

/-! ## Tokens -/

def isWhite (c : Char) : Bool :=
  c = ' ' || c = '\t' || c = '\n' || c = '\r'

/-- The text without leading white space. -/
def skip (cs : List Char) : List Char :=
  cs.dropWhile isWhite

/-- The characters that numerals consist of. -/
def isNumeric (c : Char) : Bool :=
  c.isDigit || c = '-' || c = '+' || c = '.' || c = 'e' || c = 'E'

def IsDigits (cs : List Char) : Prop :=
  cs ≠ [] ∧ ∀ c ∈ cs, c.isDigit = true

/-- The fraction of a numeral, which may be missing. -/
inductive IsFraction : List Char → Prop
  | none : IsFraction []
  | some {ds : List Char} (h : IsDigits ds) : IsFraction ('.' :: ds)

/-- The exponent of a numeral, which may be missing. -/
inductive IsExponent : List Char → Prop
  | none : IsExponent []
  | some {e : Char} {sign ds : List Char} (he : e = 'e' ∨ e = 'E')
      (hsign : sign = [] ∨ sign = ['+'] ∨ sign = ['-']) (h : IsDigits ds) :
      IsExponent (e :: (sign ++ ds))

/-- A numeral begins with no zero, unless that is its whole integer part. -/
inductive IsNumeral : List Char → Prop
  | intro {sign whole fraction exponent : List Char} (hsign : sign = [] ∨ sign = ['-'])
      (hwhole : IsDigits whole) (hzero : whole.head? = some '0' → whole = ['0'])
      (hfraction : IsFraction fraction) (hexponent : IsExponent exponent) :
      IsNumeral (sign ++ whole ++ fraction ++ exponent)

/-! ## Strings -/

/-- The character that a backslash and another character stand for. -/
def shortEscape? : Char → Option Char
  | '"' => some '"'
  | '\\' => some '\\'
  | '/' => some '/'
  | 'b' => some '\x08'
  | 'f' => some '\x0c'
  | 'n' => some '\n'
  | 'r' => some '\r'
  | 't' => some '\t'
  | _ => none

/-- The character that the two halves of a surrogate pair stand for. -/
def joinPair? (high low : Nat) : Option Char :=
  if 0xd800 ≤ high ∧ high < 0xdc00 ∧ 0xdc00 ≤ low ∧ low < 0xe000 then
    some (Char.ofNat (0x10000 + 0x400 * (high - 0xd800) + (low - 0xdc00)))
  else none

/-- The characters that may stand in a string as they are. -/
def isPlain (c : Char) : Bool :=
  32 ≤ c.toNat && c ≠ '"' && c ≠ '\\'

/-- A string is read from behind its opening quote: what it holds, and the rest behind the closing
one. -/
inductive ReadsText : List Char → List Char → List Char → Prop
  | close {rest : List Char} : ReadsText [] ('"' :: rest) rest
  | plain {c : Char} {text cs rest : List Char} (hc : isPlain c = true)
      (h : ReadsText text cs rest) : ReadsText (c :: text) (c :: cs) rest
  | short {e c : Char} {text cs rest : List Char} (he : shortEscape? e = some c)
      (h : ReadsText text cs rest) : ReadsText (c :: text) ('\\' :: e :: cs) rest
  | unit {a b c d x : Char} {text cs rest : List Char} (hx : Toml.scalar? [a, b, c, d] = some x)
      (h : ReadsText text cs rest) :
      ReadsText (x :: text) ('\\' :: 'u' :: a :: b :: c :: d :: cs) rest
  | pair {a b c d a' b' c' d' x : Char} {high low : Nat} {text cs rest : List Char}
      (hhigh : Toml.hexValue? [a, b, c, d] = some high)
      (hlow : Toml.hexValue? [a', b', c', d'] = some low) (hx : joinPair? high low = some x)
      (h : ReadsText text cs rest) :
      ReadsText (x :: text)
        ('\\' :: 'u' :: a :: b :: c :: d :: '\\' :: 'u' :: a' :: b' :: c' :: d' :: cs) rest

/-! ## Values -/

mutual

/-- A value is read from its first character on. A numeral goes on for as long as it can. -/
inductive Reads : Value → List Char → List Char → Prop
  | null {rest : List Char} : Reads .null ('n' :: 'u' :: 'l' :: 'l' :: rest) rest
  | isTrue {rest : List Char} : Reads (.bool true) ('t' :: 'r' :: 'u' :: 'e' :: rest) rest
  | isFalse {rest : List Char} :
      Reads (.bool false) ('f' :: 'a' :: 'l' :: 's' :: 'e' :: rest) rest
  | number {c : Char} {cs : List Char} (hc : isNumeric c = true)
      (h : IsNumeral (c :: cs.takeWhile isNumeric)) :
      Reads (.number (String.ofList (c :: cs.takeWhile isNumeric))) (c :: cs)
        (cs.dropWhile isNumeric)
  | string {text cs rest : List Char} (h : ReadsText text cs rest) :
      Reads (.string (String.ofList text)) ('"' :: cs) rest
  | emptyArray {cs rest : List Char} (h : skip cs = ']' :: rest) :
      Reads (.array []) ('[' :: cs) rest
  | array {vs : List Value} {cs rest : List Char} (h : ReadsItems vs cs rest) :
      Reads (.array vs) ('[' :: cs) rest
  | emptyObject {cs rest : List Char} (h : skip cs = '\x7d' :: rest) :
      Reads (.object []) ('\x7b' :: cs) rest
  | object {ms : List (String × Value)} {cs rest : List Char} (h : ReadsMembers ms cs rest) :
      Reads (.object ms) ('\x7b' :: cs) rest

/-- The items of an array, one at least, and the bracket behind them. -/
inductive ReadsItems : List Value → List Char → List Char → Prop
  | last {v : Value} {cs mid rest : List Char} (hv : Reads v (skip cs) mid)
      (hend : skip mid = ']' :: rest) : ReadsItems [v] cs rest
  | more {v : Value} {vs : List Value} {cs mid next rest : List Char} (hv : Reads v (skip cs) mid)
      (hsep : skip mid = ',' :: next) (hvs : ReadsItems vs next rest) : ReadsItems (v :: vs) cs rest

/-- A key, a colon and a value. -/
inductive ReadsMember : String × Value → List Char → List Char → Prop
  | intro {key : List Char} {v : Value} {cs name colon value rest : List Char}
      (hquote : skip cs = '"' :: name) (hkey : ReadsText key name colon)
      (hcolon : skip colon = ':' :: value) (hv : Reads v (skip value) rest) :
      ReadsMember (String.ofList key, v) cs rest

/-- The members of an object, one at least, and the brace behind them. -/
inductive ReadsMembers : List (String × Value) → List Char → List Char → Prop
  | last {m : String × Value} {cs mid rest : List Char} (hm : ReadsMember m cs mid)
      (hend : skip mid = '\x7d' :: rest) : ReadsMembers [m] cs rest
  | more {m : String × Value} {ms : List (String × Value)} {cs mid next rest : List Char}
      (hm : ReadsMember m cs mid) (hsep : skip mid = ',' :: next)
      (hms : ReadsMembers ms next rest) : ReadsMembers (m :: ms) cs rest

end

/-- A text spells a value: it holds nothing but the value and white space around it. -/
def Spells (text : String) (v : Value) : Prop :=
  ∃ rest, Reads v (skip text.toList) rest ∧ skip rest = []

/-! ## A text spells one value at most -/

theorem isPlain_ne {c : Char} (h : isPlain c = true) : c ≠ '"' ∧ c ≠ '\\' := by
  simp only [isPlain, Bool.and_eq_true, decide_eq_true_eq] at h
  exact ⟨h.1.2, h.2⟩

/-- A code unit that is a character is no half of a surrogate pair. -/
theorem joinPair?_of_scalar? {u : List Char} {c : Char} {high low : Nat}
    (hc : Toml.scalar? u = some c) (hhigh : Toml.hexValue? u = some high) :
    joinPair? high low = none := by
  have hvalid : high.isValidChar := by
    by_contra hno
    simp [Toml.scalar?, hhigh, hno] at hc
  rw [joinPair?, if_neg]
  rcases hvalid with hlt | ⟨hgt, -⟩ <;> omega

theorem ReadsText.unique {text cs rest : List Char} (h : ReadsText text cs rest) :
    ∀ {text' rest' : List Char}, ReadsText text' cs rest' → text = text' ∧ rest = rest' := by
  induction h with
  | close =>
    intro text' rest' h'
    cases h' with
    | close => exact ⟨rfl, rfl⟩
    | plain hc => exact absurd rfl (isPlain_ne hc).1
  | plain hc _ ih =>
    intro text' rest' h'
    cases h' with
    | close => exact absurd rfl (isPlain_ne hc).1
    | plain _ h' =>
      obtain ⟨rfl, rfl⟩ := ih h'
      exact ⟨rfl, rfl⟩
    | short | unit | pair => exact absurd rfl (isPlain_ne hc).2
  | short he _ ih =>
    intro text' rest' h'
    cases h' with
    | plain hc => exact absurd rfl (isPlain_ne hc).2
    | short he' h' =>
      obtain ⟨rfl, rfl⟩ := ih h'
      obtain rfl := Option.some.inj (he.symm.trans he')
      exact ⟨rfl, rfl⟩
    | unit | pair => exact absurd he (by simp [shortEscape?])
  | unit hx _ ih =>
    intro text' rest' h'
    cases h' with
    | plain hc => exact absurd rfl (isPlain_ne hc).2
    | short he => exact absurd he (by simp [shortEscape?])
    | unit hx' h' =>
      obtain ⟨rfl, rfl⟩ := ih h'
      obtain rfl := Option.some.inj (hx.symm.trans hx')
      exact ⟨rfl, rfl⟩
    | pair hhigh _ hx' => exact absurd hx' (by simp [joinPair?_of_scalar? hx hhigh])
  | pair hhigh hlow hx _ ih =>
    intro text' rest' h'
    cases h' with
    | plain hc => exact absurd rfl (isPlain_ne hc).2
    | short he => exact absurd he (by simp [shortEscape?])
    | unit hx' => exact absurd hx (by simp [joinPair?_of_scalar? hx' hhigh])
    | pair hhigh' hlow' hx' h' =>
      obtain ⟨rfl, rfl⟩ := ih h'
      obtain rfl := Option.some.inj (hhigh.symm.trans hhigh')
      obtain rfl := Option.some.inj (hlow.symm.trans hlow')
      obtain rfl := Option.some.inj (hx.symm.trans hx')
      exact ⟨rfl, rfl⟩

/-- A value does not begin with the bracket that closes an array. -/
theorem Reads.not_close {v : Value} {cs rest : List Char} (h : Reads v cs rest) :
    cs.head? ≠ some ']' := by
  cases h with
  | number hc =>
    intro heq
    obtain rfl := Option.some.inj heq
    exact absurd hc (by decide)
  | _ => simp

theorem ReadsItems.not_close {vs : List Value} {cs rest : List Char} (h : ReadsItems vs cs rest) :
    (skip cs).head? ≠ some ']' := by
  cases h with
  | last hv | more hv => exact hv.not_close

theorem ReadsMembers.head?_skip {ms : List (String × Value)} {cs rest : List Char}
    (h : ReadsMembers ms cs rest) : (skip cs).head? = some '"' := by
  cases h with
  | last hm | more hm =>
    cases hm with
    | intro hquote => rw [hquote]; rfl

/-- What separates is determined, and so is what stands behind it. -/
theorem separator_unique {c d : Char} {cs xs ys : List Char} (hc : skip cs = c :: xs)
    (hd : skip cs = d :: ys) : c = d ∧ xs = ys := by
  simpa using hc.symm.trans hd

mutual

/-- What is read is determined by the text. -/
theorem Reads.unique {v w : Value} {cs rest rest' : List Char} (h : Reads v cs rest)
    (h' : Reads w cs rest') : v = w ∧ rest = rest' := by
  cases h with
  | null | isTrue | isFalse =>
    cases h' with
    | number hc => exact absurd hc (by decide)
    | _ => exact ⟨rfl, rfl⟩
  | number hc _ =>
    cases h' with
    | number => exact ⟨rfl, rfl⟩
    | _ => exact absurd hc (by decide)
  | string h =>
    cases h' with
    | number hc => exact absurd hc (by decide)
    | string h' =>
      obtain ⟨rfl, rfl⟩ := h.unique h'
      exact ⟨rfl, rfl⟩
  | emptyArray h =>
    cases h' with
    | number hc => exact absurd hc (by decide)
    | emptyArray h' => exact ⟨rfl, (separator_unique h h').2⟩
    | array h' => exact absurd (by rw [h]; rfl) h'.not_close
  | array h =>
    cases h' with
    | number hc => exact absurd hc (by decide)
    | emptyArray h' => exact absurd (by rw [h']; rfl) h.not_close
    | array h' =>
      obtain ⟨rfl, rfl⟩ := h.unique h'
      exact ⟨rfl, rfl⟩
  | emptyObject h =>
    cases h' with
    | number hc => exact absurd hc (by decide)
    | emptyObject h' => exact ⟨rfl, (separator_unique h h').2⟩
    | object h' => exact absurd h'.head?_skip (by simp [h])
  | object h =>
    cases h' with
    | number hc => exact absurd hc (by decide)
    | emptyObject h' => exact absurd h.head?_skip (by simp [h'])
    | object h' =>
      obtain ⟨rfl, rfl⟩ := h.unique h'
      exact ⟨rfl, rfl⟩

theorem ReadsItems.unique {vs ws : List Value} {cs rest rest' : List Char}
    (h : ReadsItems vs cs rest) (h' : ReadsItems ws cs rest') : vs = ws ∧ rest = rest' := by
  cases h with
  | last hv hend =>
    cases h' with
    | last hw hend' =>
      obtain ⟨rfl, rfl⟩ := hv.unique hw
      exact ⟨rfl, (separator_unique hend hend').2⟩
    | more hw hsep =>
      obtain ⟨rfl, rfl⟩ := hv.unique hw
      exact absurd (separator_unique hend hsep).1 (by decide)
  | more hv hsep hvs =>
    cases h' with
    | last hw hend =>
      obtain ⟨rfl, rfl⟩ := hv.unique hw
      exact absurd (separator_unique hsep hend).1 (by decide)
    | more hw hsep' hws =>
      obtain ⟨rfl, rfl⟩ := hv.unique hw
      obtain ⟨-, rfl⟩ := separator_unique hsep hsep'
      obtain ⟨rfl, rfl⟩ := hvs.unique hws
      exact ⟨rfl, rfl⟩

theorem ReadsMember.unique {m n : String × Value} {cs rest rest' : List Char}
    (h : ReadsMember m cs rest) (h' : ReadsMember n cs rest') : m = n ∧ rest = rest' := by
  cases h with
  | intro hquote hkey hcolon hv =>
    cases h' with
    | intro hquote' hkey' hcolon' hw =>
      obtain ⟨-, rfl⟩ := separator_unique hquote hquote'
      obtain ⟨rfl, rfl⟩ := hkey.unique hkey'
      obtain ⟨-, rfl⟩ := separator_unique hcolon hcolon'
      obtain ⟨rfl, rfl⟩ := hv.unique hw
      exact ⟨rfl, rfl⟩

theorem ReadsMembers.unique {ms ns : List (String × Value)} {cs rest rest' : List Char}
    (h : ReadsMembers ms cs rest) (h' : ReadsMembers ns cs rest') : ms = ns ∧ rest = rest' := by
  cases h with
  | last hm hend =>
    cases h' with
    | last hn hend' =>
      obtain ⟨rfl, rfl⟩ := hm.unique hn
      exact ⟨rfl, (separator_unique hend hend').2⟩
    | more hn hsep =>
      obtain ⟨rfl, rfl⟩ := hm.unique hn
      exact absurd (separator_unique hend hsep).1 (by decide)
  | more hm hsep hms =>
    cases h' with
    | last hn hend =>
      obtain ⟨rfl, rfl⟩ := hm.unique hn
      exact absurd (separator_unique hsep hend).1 (by decide)
    | more hn hsep' hns =>
      obtain ⟨rfl, rfl⟩ := hm.unique hn
      obtain ⟨-, rfl⟩ := separator_unique hsep hsep'
      obtain ⟨rfl, rfl⟩ := hms.unique hns
      exact ⟨rfl, rfl⟩

end

/-- A text spells one value at most. -/
theorem Spells.unique {text : String} {v w : Value} (h : Spells text v) (h' : Spells text w) :
    v = w := by
  obtain ⟨_, hv, -⟩ := h
  obtain ⟨_, hw, -⟩ := h'
  exact (hv.unique hw).1

end Positioning.Log.Json
