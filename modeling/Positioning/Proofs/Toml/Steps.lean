import Mathlib.Data.List.TakeWhile
import Positioning.Proofs.Toml.Forms

/-!
# What is left behind a value

Reading takes a value off the front of a text character by character. No line end is among these
characters, but for strings in three quotes and for the gap in an array. So what holds of a text and
what is left of it behind one character, behind such a string and behind such an array, holds behind
every value.

## Main definitions

- `Toml.Steps` says that a relation of a text to what is left of it holds step by step.

## Main statements

- `Toml.not_mem_of_content?`: a string on one line holds no line end.
- `Toml.Steps.value?`: what holds step by step holds behind a value.
- `Toml.value?_suffix`: what is left behind a value is the end of the text.
-/

namespace Positioning.Toml

variable {cs rest : List Char}

/-! ## Strings on one line -/

theorem push_eq_some_iff {c : Char} {r : Option (List Char)} {text : List Char} :
    push c r = some text ↔ ∃ text', r = some text' ∧ c :: text' = text :=
  Option.map_eq_some_iff

theorem not_mem_of_unescape {skipping : Bool} (hskipping : skipping = false)
    {body text : List Char} (h : unescape false skipping body = some text) : '\n' ∉ body := by
  -- On one line no line is continued, so that nothing is ever passed over.
  fun_induction unescape false skipping body generalizing text with
  | case1 => simp
  | case2 _ c cs hpass => simp [hskipping] at hpass
  | case3 _ cs hcontinues => simp at hcontinues
  | case4 _ a b c d cs u hu _ _ ih =>
    obtain ⟨text', hcs, -⟩ := push_eq_some_iff.mp h
    have hdigits : '\n' ∉ _ := not_mem_of_scalar? hu (by decide)
    simpa [ih rfl hcs] using hdigits
  | case5 => cases h
  | case6 _ a b c d e f g i cs u hu _ _ ih =>
    obtain ⟨text', hcs, -⟩ := push_eq_some_iff.mp h
    have hdigits : '\n' ∉ _ := not_mem_of_scalar? hu (by decide)
    simpa [ih rfl hcs] using hdigits
  | case7 => cases h
  | case8 _ e cs _ _ c he _ _ ih =>
    obtain ⟨text', hcs, -⟩ := push_eq_some_iff.mp h
    have hend : e ≠ '\n' := by rintro rfl; cases he
    simp [ih rfl hcs, hend.symm]
  | case9 => cases h
  | case10 => cases h
  | case11 _ c cs _ _ hplain ih =>
    obtain ⟨text', hcs, -⟩ := push_eq_some_iff.mp h
    have hend : c ≠ '\n' := by rintro rfl; cases hplain
    simp [ih rfl hcs, hend.symm]
  | case12 => cases h

/-- What stands between the quotes of a string on one line holds no line end. -/
theorem not_mem_of_content? {escapes : Bool} {body : List Char} {s : String}
    (h : content? escapes false body = some s) : '\n' ∉ body := by
  obtain ⟨text, htext, -⟩ := Option.map_eq_some_iff.mp h
  cases escapes with
  | true => exact not_mem_of_unescape rfl htext
  | false =>
    intro hmem
    simp only [verbatim?, Bool.false_eq_true, if_false] at htext
    split at htext
    case isTrue hall => exact absurd (List.all_eq_true.mp hall _ hmem) (by decide)
    case isFalse => cases htext

/-! ## Steps -/

/-- A relation of a text to what is left of it that holds step by step: for each character that ends
no line, for strings in three quotes, and for the gap in an array. -/
structure Steps (R : List Char → List Char → Prop) : Prop where
  refl (cs : List Char) : R cs cs
  trans {cs cs' cs'' : List Char} : R cs cs' → R cs' cs'' → R cs cs''
  tail {c : Char} {cs : List Char} : c ≠ '\n' → R (c :: cs) cs
  block {quote : Char} {escapes : Bool} {cs rest : List Char} {s : String} :
    IsQuote quote escapes → afterQuotes? quote escapes cs = some (s, rest) →
      R (quote :: quote :: quote :: cs) rest
  array {cs rest : List Char} : dropGap false cs = ']' :: rest → R ('[' :: cs) rest

section Steps

variable {R : List Char → List Char → Prop}

theorem Steps.append (hR : Steps R) {part : List Char} (hpart : '\n' ∉ part) (cs : List Char) :
    R (part ++ cs) cs := by
  induction part with
  | nil => exact hR.refl cs
  | cons c part ih =>
    have hc : c ≠ '\n' := (List.ne_of_not_mem_cons hpart).symm
    exact hR.trans (hR.tail hc) (ih (List.not_mem_of_not_mem_cons hpart))

theorem Steps.dropWhile (hR : Steps R) {p : Char → Bool} (hp : p '\n' = false) (cs : List Char) :
    R cs (cs.dropWhile p) := by
  have hpart : '\n' ∉ cs.takeWhile p := fun hmem => by
    rw [List.mem_takeWhile_imp hmem] at hp
    cases hp
  have happend := hR.append hpart (cs.dropWhile p)
  rwa [List.takeWhile_append_dropWhile] at happend

theorem Steps.dropBlank (hR : Steps R) (cs : List Char) : R cs (Toml.dropBlank cs) :=
  hR.dropWhile (by decide) cs

theorem Steps.of_dropBlank (hR : Steps R) {c : Char} (h : Toml.dropBlank cs = c :: rest)
    (hc : c ≠ '\n') : R cs rest :=
  hR.trans (h ▸ hR.dropBlank cs) (hR.tail hc)

theorem Steps.afterQuote? (hR : Steps R) {quote : Char} {escapes : Bool}
    (hquote : IsQuote quote escapes) {s : String}
    (h : Toml.afterQuote? quote escapes cs = some (s, rest)) : R (quote :: cs) rest := by
  obtain ⟨body, hsplit, hcontent⟩ := afterQuote?_eq_some_iff.mp h
  rw [splitLine_eq_some hsplit]
  exact hR.trans (hR.tail hquote.ne_lineEnd)
    (hR.trans (hR.append (not_mem_of_content? hcontent) _) (hR.tail hquote.ne_lineEnd))

theorem Steps.simpleKey? (hR : Steps R) {part : String}
    (h : Toml.simpleKey? cs = some (part, rest)) : R cs rest := by
  cases simpleKey?_iff.mp h with
  | quoted hquote h => exact hR.afterQuote? hquote h
  | bare => exact hR.dropWhile (by decide) _

theorem Steps.key? (hR : Steps R) {fuel : Nat} {key : Path}
    (h : Toml.key? fuel cs = some (key, rest)) : R cs rest := by
  induction fuel generalizing key cs with
  | zero => cases h
  | succ fuel ih =>
    cases key?_succ_iff.mp h with
    | last hpart _ =>
      exact hR.trans (hR.dropBlank cs) (hR.trans (hR.simpleKey? hpart) (hR.dropBlank _))
    | dot hpart hdot hparts =>
      have hrest := hR.trans (hR.simpleKey? hpart) (hR.of_dropBlank hdot (by decide))
      exact hR.trans (hR.dropBlank cs) (hR.trans hrest (ih hparts))

theorem Steps.value?_entries? (hR : Steps R) (fuel : Nat) :
    (∀ {cs rest : List Char} {v : Value}, Toml.value? fuel cs = some (v, rest) → R cs rest) ∧
    ∀ {cs rest : List Char} {entries : List (Path × Value)},
      entries? fuel cs = some (entries, rest) → R cs rest := by
  induction fuel with
  | zero => exact ⟨fun h => by simp [Toml.value?] at h, fun h => by simp [entries?] at h⟩
  | succ fuel ih =>
    obtain ⟨ihValue, ihEntries⟩ := ih
    have hbrace : ∀ {c : Char} {cs : List Char}, c ≠ '\n' → R (c :: cs) (Toml.dropBlank cs) :=
      fun hc => hR.trans (hR.tail hc) (hR.dropBlank _)
    constructor
    · intro cs rest v h
      cases value?_succ_iff.mp h with
      | string h =>
        cases h with
        | line hquote _ h => exact hR.afterQuote? hquote h
        | block hquote h => exact hR.block hquote h
      | emptyArray h => exact hR.array h
      | emptyTable h => exact hR.trans (hR.tail (by decide)) (hR.of_dropBlank h (by decide))
      | table _ h => exact hR.trans (hbrace (by decide)) (ihEntries h)
      | integer => exact hR.dropWhile (by decide) _
    · intro cs rest entries h
      cases entries?_succ_iff.mp h with
      | last hkey hvalue hclose =>
        have hentry := hR.trans (hR.key? hkey) (hR.trans (hbrace (by decide)) (ihValue hvalue))
        exact hR.trans hentry (hR.of_dropBlank hclose (by decide))
      | comma hkey hvalue hcomma hothers =>
        have hentry := hR.trans (hR.key? hkey) (hR.trans (hbrace (by decide)) (ihValue hvalue))
        exact hR.trans hentry (hR.trans (hR.of_dropBlank hcomma (by decide)) (ihEntries hothers))

/-- What holds step by step holds of a text and what is left of it behind a value. -/
theorem Steps.value? (hR : Steps R) {fuel : Nat} {v : Value}
    (h : Toml.value? fuel cs = some (v, rest)) : R cs rest :=
  (hR.value?_entries? fuel).1 h

end Steps

/-! ## Ends of the text -/

theorem dropGap_suffix (comment : Bool) (cs : List Char) : dropGap comment cs <:+ cs := by
  fun_induction dropGap comment cs with
  | case1 => exact List.suffix_rfl
  | case4 => exact List.suffix_rfl
  | case7 => exact List.suffix_rfl
  | case2 => next ih => exact ih.trans (List.suffix_cons ..)
  | case3 => next ih => exact ih.trans (List.suffix_cons ..)
  | case5 => next ih => exact ih.trans (List.suffix_cons ..)
  | case6 => next ih => exact ih.trans (List.suffix_cons ..)

theorem splitLines_suffix {quote : Char} {escapes : Bool} {body : List Char}
    (h : splitLines quote escapes cs = some (body, rest)) : rest <:+ cs := by
  fun_induction splitLines quote escapes cs generalizing body with
  | case1 => cases h
  | case2 => cases h
  | case3 =>
    cases h
    exact (List.dropWhile_suffix _).trans (List.suffix_cons ..)
  | case4 =>
    next ih =>
      obtain ⟨body', hsplit, -⟩ := pushFirst_eq_some_iff.mp h
      exact (ih hsplit).trans (List.suffix_cons ..)
  | case5 => cases h
  | case6 =>
    next ih =>
      obtain ⟨body', hrest, -⟩ := pushFirst_eq_some_iff.mp h
      obtain ⟨body'', hsplit, -⟩ := pushFirst_eq_some_iff.mp hrest
      exact (ih hsplit).trans ((List.suffix_cons ..).trans (List.suffix_cons ..))
  | case7 =>
    next ih =>
      obtain ⟨body', hsplit, -⟩ := pushFirst_eq_some_iff.mp h
      exact (ih hsplit).trans (List.suffix_cons ..)

theorem dropFirstLineEnd_cons (c : Char) (cs : List Char) :
    dropFirstLineEnd (c :: cs) = if c = '\n' then cs else c :: cs :=
  rfl

theorem dropFirstLineEnd_suffix (cs : List Char) : dropFirstLineEnd cs <:+ cs := by
  cases cs with
  | nil => exact List.suffix_rfl
  | cons c cs =>
    rw [dropFirstLineEnd_cons]
    split
    · exact List.suffix_cons ..
    · exact List.suffix_rfl

theorem steps_suffix : Steps fun cs rest => rest <:+ cs where
  refl _ := List.suffix_rfl
  trans h h' := h'.trans h
  tail _ := List.suffix_cons ..
  block {quote _ cs _ _} _ h := by
    obtain ⟨body, hsplit, -⟩ := afterQuotes?_eq_some_iff.mp h
    have hcs := (splitLines_suffix hsplit).trans (dropFirstLineEnd_suffix cs)
    exact hcs.trans (List.suffix_append [quote, quote, quote] cs)
  array {cs rest} h := by
    have hgap : ']' :: rest <:+ cs := h ▸ dropGap_suffix false cs
    exact (List.suffix_cons ..).trans (hgap.trans (List.suffix_cons ..))

/-- A value is taken off the front of a text. -/
theorem value?_suffix {fuel : Nat} {v : Value} (h : value? fuel cs = some (v, rest)) :
    rest <:+ cs :=
  steps_suffix.value? h

end Positioning.Toml
