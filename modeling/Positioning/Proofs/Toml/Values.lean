import Positioning.Proofs.Rendering
import Positioning.Toml.Reader

/-!
# Strings and integers as values

A string on one line stands between double quotes, with escapes for what cannot stand there as it
is. An integer is its decimal digits, with or without a minus sign before them. Both are read as
what they stand for, and what follows them is left as it is.

## Main definitions

- `Toml.Basic` relates what stands between the quotes to the text it stands for.
- `Toml.escaped` is the plain way to write a text between quotes.
- `Toml.Numeral` relates digits to the integer they stand for.

## Main statements

- `Toml.quoted?_of_basic`: a string is read as its text.
- `Toml.basic_escaped`: every text without control characters can be written.
- `Toml.integer?_of_numeral`: a numeral is read as its integer, where that has 64 bits.
-/

namespace Positioning.Toml

/-! ## Strings -/

/-- The two quotes, and whether a backslash begins an escape behind them. -/
inductive IsQuote : Char → Bool → Prop where
  | double : IsQuote '"' true
  | single : IsQuote '\'' false

/-- What stands between the quotes of a string on one line, and the text it stands for. -/
inductive Basic : List Char → List Char → Prop where
  | nil : Basic [] []
  | plain {c : Char} {body text : List Char} (hplain : isPlain c = true) (hquote : c ≠ '"')
      (hescape : c ≠ '\\') (h : Basic body text) : Basic (c :: body) (c :: text)
  | short {e c : Char} {body text : List Char} (he : shortEscape? e = some c)
      (h : Basic body text) : Basic ('\\' :: e :: body) (c :: text)
  | four {a b c d u : Char} {body text : List Char} (hu : scalar? [a, b, c, d] = some u)
      (h : Basic body text) : Basic ('\\' :: 'u' :: a :: b :: c :: d :: body) (u :: text)
  | eight {a b c d e f g h' u : Char} {body text : List Char}
      (hu : scalar? [a, b, c, d, e, f, g, h'] = some u) (h : Basic body text) :
      Basic ('\\' :: 'U' :: a :: b :: c :: d :: e :: f :: g :: h' :: body) (u :: text)

/-- The digits of a code point are hexadecimal digits. -/
theorem not_mem_of_scalar? {digits : List Char} {u : Char} (h : scalar? digits = some u) {c : Char}
    (hc : hexDigit? c = none) : c ∉ digits := by
  have hvalues : ∃ ds, digits.mapM hexDigit? = some ds := by
    cases hds : digits.mapM hexDigit? with
    | none => simp [scalar?, hexValue?, hds] at h
    | some ds => exact ⟨ds, rfl⟩
  obtain ⟨ds, hds⟩ := hvalues
  clear h
  induction digits generalizing ds with
  | nil => simp
  | cons d digits ih =>
    simp only [List.mapM_cons, Option.bind_eq_bind, Option.bind_eq_some_iff] at hds
    obtain ⟨n, hd, ds', hdigits, -⟩ := hds
    have hne : c ≠ d := by
      rintro rfl
      rw [hc] at hd
      cases hd
    exact List.not_mem_cons_of_ne_of_not_mem hne (ih ds' hdigits)

/-- No character stands between the quotes that is neither plain nor a part of an escape. -/
theorem Basic.not_mem {c : Char} (hplain : isPlain c = false) (hshort : shortEscape? c = none)
    (hdigit : hexDigit? c = none) {body text : List Char} (h : Basic body text) : c ∉ body := by
  have hne : ∀ {d : Char}, isPlain d = true → c ≠ d := by
    rintro d hd rfl
    rw [hplain] at hd
    cases hd
  induction h with
  | nil => simp
  | plain hd _ _ _ ih => exact List.not_mem_cons_of_ne_of_not_mem (hne hd) ih
  | @short e _ _ _ he _ ih =>
    have hescape : c ≠ e := by
      rintro rfl
      rw [hshort] at he
      cases he
    exact List.not_mem_cons_of_ne_of_not_mem (hne (by decide))
      (List.not_mem_cons_of_ne_of_not_mem hescape ih)
  | four hu _ ih =>
    have hdigits := not_mem_of_scalar? hu hdigit
    have hescape : c ≠ '\\' := hne (by decide)
    have hletter : c ≠ 'u' := hne (by decide)
    simpa [hescape, hletter, ih] using hdigits
  | eight hu _ ih =>
    have hdigits := not_mem_of_scalar? hu hdigit
    have hescape : c ≠ '\\' := hne (by decide)
    have hletter : c ≠ 'U' := hne (by decide)
    simpa [hescape, hletter, ih] using hdigits

/-- A text with a backslash before each double quote and each backslash. -/
def escaped : List Char → List Char
  | [] => []
  | c :: text =>
    if c = '"' ∨ c = '\\' then '\\' :: c :: escaped text else c :: escaped text

/-- A text without control characters is written with its quotes and backslashes escaped. -/
theorem basic_escaped {text : List Char} (h : ∀ c ∈ text, isPlain c = true) :
    Basic (escaped text) text := by
  induction text with
  | nil => exact .nil
  | cons c text ih =>
    have htext := ih fun x hx => h x (List.mem_cons_of_mem _ hx)
    rw [escaped]
    split
    case isTrue hc =>
      obtain rfl | rfl := hc
      · exact .short rfl htext
      · exact .short rfl htext
    case isFalse hc =>
      obtain ⟨hquote, hescape⟩ := not_or.mp hc
      exact .plain (h c (List.mem_cons_self ..)) hquote hescape htext

/-- A character that begins no escape stands for itself, if it may stand in a string. -/
theorem unescape_cons {c : Char} (hc : c ≠ '\\') (rest : List Char) :
    unescape false false (c :: rest) =
      if isPlain c then push c (unescape false false rest) else none := by
  rw [unescape.eq_def]
  simp [hc]

/-- The text that a string stands for. -/
theorem unescape_of_basic {body text : List Char} (h : Basic body text) :
    unescape false false body = some text := by
  induction h with
  | nil => rw [unescape]
  | plain hplain _ hescape _ ih =>
    rw [unescape_cons hescape, if_pos hplain, ih, push, Option.map_some]
  | @short e c body text he _ ih =>
    have hu : e ≠ 'u' := by rintro rfl; cases he
    have hU : e ≠ 'U' := by rintro rfl; cases he
    simp [unescape, hu, hU, he, ih, push]
  | four hu _ ih => simp [unescape, hu, ih, push]
  | eight hu _ ih => simp [unescape, hu, ih, push]

theorem splitLine_quote (quote : Char) (escapes : Bool) (rest : List Char) :
    splitLine quote escapes (quote :: rest) = some ([], rest) := by
  rw [splitLine.eq_def]
  exact if_pos rfl

theorem splitLine_cons {c : Char} (hquote : c ≠ '"') (hescape : c ≠ '\\') (rest : List Char) :
    splitLine '"' true (c :: rest) = pushFirst c (splitLine '"' true rest) := by
  rw [splitLine.eq_def]
  simp [hquote, hescape]

theorem splitLine_escape (e : Char) (rest : List Char) :
    splitLine '"' true ('\\' :: e :: rest) =
      pushFirst '\\' (pushFirst e (splitLine '"' true rest)) := by
  rw [splitLine.eq_def]
  simp

/-- The digits of a code point are passed over as they stand. -/
theorem splitLine_digits {digits : List Char} {u : Char} (h : scalar? digits = some u)
    {rest body tail : List Char} (hrest : splitLine '"' true rest = some (body, tail)) :
    splitLine '"' true (digits ++ rest) = some (digits ++ body, tail) := by
  have hquotes : '"' ∉ digits := not_mem_of_scalar? h (by decide)
  have hescapes : '\\' ∉ digits := not_mem_of_scalar? h (by decide)
  clear h
  induction digits with
  | nil => exact hrest
  | cons c digits ih =>
    have hquote : c ≠ '"' := (List.ne_of_not_mem_cons hquotes).symm
    have hescape : c ≠ '\\' := (List.ne_of_not_mem_cons hescapes).symm
    rw [List.cons_append, splitLine_cons hquote hescape,
      ih (List.not_mem_of_not_mem_cons hquotes) (List.not_mem_of_not_mem_cons hescapes)]
    rfl

/-- A string ends at the double quote behind it. -/
theorem splitLine_of_basic {body text : List Char} (h : Basic body text) (tail : List Char) :
    splitLine '"' true (body ++ '"' :: tail) = some (body, tail) := by
  induction h with
  | nil => exact splitLine_quote '"' true tail
  | plain _ hquote hescape _ ih =>
    rw [List.cons_append, splitLine_cons hquote hescape, ih]
    rfl
  | short _ _ ih =>
    rw [List.cons_append, List.cons_append, splitLine_escape, ih]
    rfl
  | four hu _ ih =>
    have hdigits := splitLine_digits hu ih
    rw [List.cons_append, List.cons_append, splitLine_escape]
    exact congrArg (fun r => pushFirst _ (pushFirst _ r)) hdigits
  | eight hu _ ih =>
    have hdigits := splitLine_digits hu ih
    rw [List.cons_append, List.cons_append, splitLine_escape]
    exact congrArg (fun r => pushFirst _ (pushFirst _ r)) hdigits

theorem Basic.head?_ne {body text : List Char} (h : Basic body text) : body.head? ≠ some '"' := by
  cases h with
  | plain _ hquote => simpa using hquote
  | _ => simp

/-- Where no three quotes stand in a row, a string on one line begins. -/
theorem quoted?_line {quote : Char} {escapes : Bool} (hquote : IsQuote quote escapes)
    {cs : List Char} (hone : ∀ cs', cs ≠ quote :: quote :: cs') :
    quoted? (quote :: cs) = afterQuote? quote escapes cs := by
  rw [quoted?.eq_def]
  cases hquote with
  | double =>
    split
    case h_1 cs' heq => exact absurd (List.cons.inj heq).2 (hone cs')
    case h_2 heq => simp at heq
    case h_3 heq => rw [(List.cons.inj heq).2]
    case h_4 heq => simp at heq
    case h_5 hne _ => exact absurd rfl (hne cs)
  | single =>
    split
    case h_1 heq => simp at heq
    case h_2 cs' heq => exact absurd (List.cons.inj heq).2 (hone cs')
    case h_3 heq => simp at heq
    case h_4 heq => rw [(List.cons.inj heq).2]
    case h_5 hne => exact absurd rfl (hne cs)

/-- A string on one line is read as its text, unless a third quote follows an empty one. -/
theorem quoted?_of_basic {body text tail : List Char} (h : Basic body text)
    (htail : tail.head? ≠ some '"') :
    quoted? ('"' :: (body ++ '"' :: tail)) = some (String.ofList text, tail) := by
  have hone : ∀ rest, body ++ '"' :: tail ≠ '"' :: '"' :: rest := by
    intro rest heq
    cases body with
    | nil => exact htail (by simp [(List.cons.inj heq).2])
    | cons c body => exact h.head?_ne (by simp [(List.cons.inj heq).1])
  rw [quoted?_line .double hone]
  simp [afterQuote?, splitLine_of_basic h, content?, unescape_of_basic h]

/-! ## Integers -/

/-- The digits of an integer, and the integer. -/
inductive Numeral : List Char → Int → Prop where
  | plain (n : Nat) : Numeral (Decimal.digits n) n
  | minus (n : Nat) : Numeral ('-' :: Decimal.digits n) (-n)

theorem hexDigit?_of_isDigit {c : Char} (h : c.isDigit = true) :
    hexDigit? c = some (c.toNat - 48) := by
  rw [hexDigit?, if_pos h]

theorem lt_of_isDigit {c : Char} (h : c.isDigit = true) : c.toNat - 48 < 10 := by
  simp only [Char.isDigit, Bool.and_eq_true, decide_eq_true_eq] at h
  have hle := UInt32.le_iff_toNat_le.mp h.2
  change c.toNat ≤ 57 at hle
  omega

/-- Digits are read as their numbers. -/
theorem digits?_of_isDigit {cs : List Char} (h : ∀ c ∈ cs, c.isDigit = true) (afterDigit : Bool)
    (hne : afterDigit = true ∨ cs ≠ []) :
    digits? 10 afterDigit cs = some (cs.map fun c => c.toNat - 48) := by
  induction cs generalizing afterDigit with
  | nil => simp [digits?, hne.resolve_right (not_not.mpr rfl)]
  | cons c cs ih =>
    obtain ⟨hc, hcs⟩ := List.forall_mem_cons.mp h
    have hunder : c ≠ '_' := by rintro rfl; cases hc
    rw [digits?, if_neg hunder, hexDigit?_of_isDigit hc]
    simp [lt_of_isDigit hc, ih hcs true (.inl rfl)]

theorem ofDigits_map (cs : List Char) :
    ofDigits 10 (cs.map fun c => c.toNat - 48) = Decimal.value cs := by
  rw [ofDigits, List.foldl_map, Decimal.value]

theorem numeral?_digits (n : Nat) : numeral? 10 (Decimal.digits n) = some n := by
  have hdigits := digits?_of_isDigit (Decimal.isDigit_of_mem_digits n) false
    (.inr (Decimal.digits_ne_nil n))
  rw [numeral?, hdigits, Option.map_some, ofDigits_map, Decimal.value_digits]

/-- The digits of a number are a decimal numeral. -/
theorem decimal?_digits (n : Nat) : decimal? (Decimal.digits n) = some n := by
  rw [decimal?.eq_def]
  split
  case h_1 heq =>
    have hzero : n = 0 := Decimal.eq_zero_of_head?_digits (by simp [heq])
    rw [hzero]
  case h_2 rest hne heq =>
    have hzero : n = 0 := Decimal.eq_zero_of_head?_digits (by simp [heq])
    subst hzero
    simp [Decimal.digits, Decimal.digit] at heq
    simp [heq] at hne
  case h_3 => exact numeral?_digits n

theorem anyInteger?_of_numeral {cs : List Char} {n : Int} (h : Numeral cs n) :
    anyInteger? cs = some n := by
  cases h with
  | minus n => simp [anyInteger?, decimal?_digits]
  | plain n =>
    have hdigit := Decimal.isDigit_of_mem_digits n
    -- No base and no sign stands before the digits.
    rw [anyInteger?.eq_def]
    split
    case h_1 heq => exact absurd (hdigit 'x' (by simp [heq])) (by decide)
    case h_2 heq => exact absurd (hdigit 'o' (by simp [heq])) (by decide)
    case h_3 heq => exact absurd (hdigit 'b' (by simp [heq])) (by decide)
    case h_4 heq => exact absurd (hdigit '+' (by simp [heq])) (by decide)
    case h_5 heq => exact absurd (hdigit '-' (by simp [heq])) (by decide)
    case h_6 => rw [decimal?_digits, Option.map_some, Int.ofNat_eq_natCast]

/-- A numeral is read as its integer, where that has 64 bits. -/
theorem integer?_of_numeral {cs : List Char} {n : Int} (h : Numeral cs n) :
    integer? cs = if least ≤ n ∧ n ≤ greatest then some n else none := by
  rw [integer?, anyInteger?_of_numeral h]

end Positioning.Toml
