import Positioning.Proofs.Toml.Lines
import Positioning.Proofs.Toml.Steps

/-!
# Values that stay on their line

Only a string in three quotes goes on in the lines behind it. Any other value ends on the line on
which it begins, or the text is no document. And a value that is read of a line alone is read of it
in the same way with further lines behind.

## Main definitions

- `Toml.HasBlock` says that three quotes stand in a row.
- `Toml.OnLine` says that a text begins in a line without such quotes, before a given tail.

## Main statements

- `Toml.value?_onLine`: a value does not go beyond its line.
- `Toml.value?_append`: a value is read with further lines behind it as it is read alone.
- `Toml.readLines_key_line`: what the line of a key does, whatever stands on it.
-/

namespace Positioning.Toml

variable {cs rest : List Char}

/-! ## The end of a line -/

/-- Three quotes of a kind stand in a row. -/
def HasBlock (line : List Char) : Prop :=
  ∃ quote escapes, IsQuote quote escapes ∧ [quote, quote, quote] <:+: line

/-- A text begins in a line without three quotes in a row, before given further lines. -/
def OnLine (others cs : List Char) : Prop :=
  ∃ line, cs = line ++ '\n' :: others ∧ '\n' ∉ line ∧ ¬ HasBlock line

section OnLine

variable {others : List Char} {fuel : Nat}

/-- What is left of a line without its first character. -/
theorem OnLine.tail {c : Char} (h : OnLine others (c :: cs)) (hc : c ≠ '\n') :
    OnLine others cs := by
  obtain ⟨line, heq, hend, hblock⟩ := h
  cases line with
  | nil => exact absurd (List.cons.inj heq).1 hc
  | cons c' line =>
    refine ⟨line, (List.cons.inj heq).2, List.not_mem_of_not_mem_cons hend, fun hline => hblock ?_⟩
    obtain ⟨quote, escapes, hquote, hinfix⟩ := hline
    exact ⟨quote, escapes, hquote, hinfix.trans (List.suffix_cons c' line).isInfix⟩

theorem not_onLine_block {quote : Char} {escapes : Bool} (hquote : IsQuote quote escapes) :
    ¬ OnLine others (quote :: quote :: quote :: cs) := by
  rintro ⟨line, heq, -, hblock⟩
  have hne := hquote.ne_lineEnd
  rcases line with _ | ⟨a, _ | ⟨b, _ | ⟨c, line⟩⟩⟩
  · simp [hne] at heq
  · simp [hne] at heq
  · simp [hne] at heq
  · simp only [List.cons_append, List.cons.injEq] at heq
    obtain ⟨rfl, rfl, rfl, -⟩ := heq
    exact hblock ⟨quote, escapes, hquote, [], line, rfl⟩

/-- Blanks, line ends and comments are passed over up to another character of the line, or the
further lines are reached. -/
theorem dropGap_onLine (comment : Bool) (hcs : OnLine others cs) :
    OnLine others (dropGap comment cs) ∨ dropGap comment cs = dropGap false others := by
  induction cs generalizing comment with
  | nil =>
    obtain ⟨line, heq, -⟩ := hcs
    simp at heq
  | cons c cs ih =>
    by_cases hc : c = '\n'
    · -- The line is empty, and the gap goes on in the further lines.
      subst hc
      obtain ⟨line, heq, hend, -⟩ := hcs
      cases line with
      | nil =>
        obtain ⟨-, rfl⟩ := List.cons.inj heq
        cases comment <;> exact .inr (by simp [dropGap])
      | cons c line => exact absurd (List.mem_cons.mpr (.inl (List.cons.inj heq).1)) hend
    · have hrest := hcs.tail hc
      cases comment with
      | true =>
        rw [dropGap, if_neg hc]
        split
        · exact ih true hrest
        · exact .inl hcs
      | false =>
        rw [dropGap]
        split
        · exact ih false hrest
        · split
          · exact ih true hrest
          · exact .inl hcs

/-- Reading stays on the line. A closing bracket may not stand first in the further lines. -/
theorem steps_onLine (hothers : (dropGap false others).head? ≠ some ']') :
    Steps fun cs rest => OnLine others cs → OnLine others rest where
  refl _ := id
  trans h h' := h' ∘ h
  tail hc hcs := hcs.tail hc
  block hquote _ hcs := absurd hcs (not_onLine_block hquote)
  array h hcs := by
    obtain hgap | hgap := dropGap_onLine false (hcs.tail (by decide))
    · rw [h] at hgap
      exact hgap.tail (by decide)
    · rw [← hgap, h] at hothers
      exact absurd rfl hothers

/-- A value ends on its line, unless three quotes stand in a row there. -/
theorem value?_onLine (hothers : (dropGap false others).head? ≠ some ']') {v : Value}
    (h : value? fuel cs = some (v, rest)) (hcs : OnLine others cs) : OnLine others rest :=
  (steps_onLine hothers).value? h hcs

end OnLine

/-! ## Further lines -/

section Append

variable {fuel fuel' : Nat} (others : List Char)

theorem takeWhile_append_line {p : Char → Bool} (hp : p '\n' = false) (cs : List Char) :
    (cs ++ '\n' :: others).takeWhile p = cs.takeWhile p := by
  induction cs with
  | nil => simp [hp]
  | cons c cs ih => simp [List.takeWhile_cons, ih]

theorem dropWhile_append_line {p : Char → Bool} (hp : p '\n' = false) (cs : List Char) :
    (cs ++ '\n' :: others).dropWhile p = cs.dropWhile p ++ '\n' :: others := by
  induction cs with
  | nil => simp [hp]
  | cons c cs ih =>
    rw [List.cons_append, List.dropWhile_cons, List.dropWhile_cons, ih]
    split <;> rfl

theorem dropBlank_append_line (cs : List Char) :
    dropBlank (cs ++ '\n' :: others) = dropBlank cs ++ '\n' :: others :=
  dropWhile_append_line others (by decide) cs

theorem head?_append_line {c : Char} (hc : c ≠ '\n') (h : cs.head? ≠ some c) :
    (cs ++ '\n' :: others).head? ≠ some c := by
  cases cs with
  | nil => simpa using hc.symm
  | cons d cs => simpa using h

theorem splitLine_append {quote : Char} {escapes : Bool} {body : List Char}
    (h : splitLine quote escapes cs = some (body, rest)) (more : List Char) :
    splitLine quote escapes (cs ++ more) = some (body, rest ++ more) := by
  fun_induction splitLine quote escapes cs generalizing body with
  | case1 => cases h
  | case2 =>
    cases h
    exact splitLine_quote ..
  | case3 => cases h
  | case4 c hquote hescape e cs ih =>
    obtain ⟨body', hrest, rfl⟩ := pushFirst_eq_some_iff.mp h
    obtain ⟨body'', hsplit, rfl⟩ := pushFirst_eq_some_iff.mp hrest
    rw [List.cons_append, List.cons_append, splitLine.eq_def]
    simp only [hquote, hescape, if_false, if_true, ih hsplit]
    rfl
  | case5 c cs hquote hescape ih =>
    obtain ⟨body', hsplit, rfl⟩ := pushFirst_eq_some_iff.mp h
    rw [List.cons_append, splitLine.eq_def]
    simp only [hquote, hescape, if_false, ih hsplit]
    rfl

theorem splitLines_append {quote : Char} {escapes : Bool} (hquote : quote ≠ '\n')
    {body : List Char} (h : splitLines quote escapes cs = some (body, rest)) :
    splitLines quote escapes (cs ++ '\n' :: others) = some (body, rest ++ '\n' :: others) := by
  -- A run of quotes ends at the line end as it ends at the end of the text.
  have htake : ∀ cs : List Char, (cs ++ '\n' :: others).takeWhile (· = quote) =
      cs.takeWhile (· = quote) := takeWhile_append_line others (decide_eq_false hquote.symm)
  have hdrop : ∀ cs : List Char, (cs ++ '\n' :: others).dropWhile (· = quote) =
      cs.dropWhile (· = quote) ++ '\n' :: others :=
    dropWhile_append_line others (decide_eq_false hquote.symm)
  fun_induction splitLines quote escapes cs generalizing body with
  | case1 => cases h
  | case2 => cases h
  | case3 cs run hshort =>
    next hlong =>
    cases h
    rw [List.cons_append, splitLines.eq_def]
    simp only [if_true, htake, hdrop]
    exact (if_neg hshort).trans (if_pos hlong)
  | case4 cs run hshort hlong =>
    next ih =>
    obtain ⟨body', hsplit, rfl⟩ := pushFirst_eq_some_iff.mp h
    rw [List.cons_append, splitLines.eq_def]
    simp only [if_true, htake, hdrop, ih hsplit]
    exact (if_neg hshort).trans (if_neg hlong)
  | case5 => cases h
  | case6 c hne hescape e cs ih =>
    obtain ⟨body', hrest, rfl⟩ := pushFirst_eq_some_iff.mp h
    obtain ⟨body'', hsplit, rfl⟩ := pushFirst_eq_some_iff.mp hrest
    rw [List.cons_append, List.cons_append, splitLines.eq_def]
    simp only [hne, hescape, if_false, if_true, ih hsplit]
    rfl
  | case7 c cs hne hescape ih =>
    obtain ⟨body', hsplit, rfl⟩ := pushFirst_eq_some_iff.mp h
    rw [List.cons_append, splitLines.eq_def]
    simp only [hne, hescape, if_false, ih hsplit]
    rfl

theorem afterQuote?_append {quote : Char} {escapes : Bool} {s : String}
    (h : afterQuote? quote escapes cs = some (s, rest)) (more : List Char) :
    afterQuote? quote escapes (cs ++ more) = some (s, rest ++ more) := by
  obtain ⟨body, hsplit, hcontent⟩ := afterQuote?_eq_some_iff.mp h
  exact afterQuote?_eq_some_iff.mpr ⟨body, splitLine_append hsplit more, hcontent⟩

theorem afterQuotes?_append {quote : Char} {escapes : Bool} (hquote : quote ≠ '\n') {s : String}
    (h : afterQuotes? quote escapes cs = some (s, rest)) :
    afterQuotes? quote escapes (cs ++ '\n' :: others) = some (s, rest ++ '\n' :: others) := by
  obtain ⟨body, hsplit, hcontent⟩ := afterQuotes?_eq_some_iff.mp h
  cases cs with
  | nil => simp [dropFirstLineEnd, splitLines] at hsplit
  | cons c cs =>
    have hdrop : dropFirstLineEnd (c :: cs ++ '\n' :: others) =
        dropFirstLineEnd (c :: cs) ++ '\n' :: others := by
      rw [List.cons_append, dropFirstLineEnd_cons, dropFirstLineEnd_cons]
      split <;> rfl
    refine afterQuotes?_eq_some_iff.mpr ⟨body, ?_, hcontent⟩
    rw [hdrop, splitLines_append others hquote hsplit]

theorem stringAt_append {s : String} (h : StringAt cs s rest) :
    StringAt (cs ++ '\n' :: others) s (rest ++ '\n' :: others) := by
  cases h with
  | @line quote _ cs _ _ hquote hone h =>
    refine .line hquote (fun cs' heq => ?_) (afterQuote?_append h _)
    have hne := hquote.ne_lineEnd
    rcases cs with _ | ⟨a, _ | ⟨b, cs⟩⟩
    · simp [hne.symm] at heq
    · simp [hne.symm] at heq
    · cases heq
      exact hone cs rfl
  | block hquote h => exact .block hquote (afterQuotes?_append others hquote.ne_lineEnd h)

theorem simpleKey?_append {part : String} (h : simpleKey? cs = some (part, rest)) :
    simpleKey? (cs ++ '\n' :: others) = some (part, rest ++ '\n' :: others) := by
  refine simpleKey?_iff.mpr ?_
  cases simpleKey?_iff.mp h with
  | quoted hquote h => exact .quoted hquote (afterQuote?_append h _)
  | @bare c cs hc =>
    have hbare : PartAt (c :: (cs ++ '\n' :: others)) _ _ := .bare hc
    rw [← List.cons_append, takeWhile_append_line others (by decide),
      dropWhile_append_line others (by decide)] at hbare
    exact hbare

theorem key?_append {key : Path} (h : key? fuel cs = some (key, rest)) (hfuel : fuel ≤ fuel') :
    key? fuel' (cs ++ '\n' :: others) = some (key, rest ++ '\n' :: others) := by
  induction fuel generalizing fuel' key cs with
  | zero => cases h
  | succ fuel ih =>
    obtain ⟨fuel', rfl⟩ := Nat.exists_eq_add_one_of_ne_zero (Nat.ne_zero_of_lt hfuel)
    refine key?_succ_iff.mpr ?_
    cases key?_succ_iff.mp h with
    | last hpart hend =>
      have hpart' := simpleKey?_append others hpart
      rw [← dropBlank_append_line] at hpart' ⊢
      refine .last hpart' ?_
      rw [dropBlank_append_line]
      exact head?_append_line others (by decide) hend
    | dot hpart hdot hparts =>
      have hpart' := simpleKey?_append others hpart
      rw [← dropBlank_append_line] at hpart'
      refine .dot hpart' ?_ (ih hparts (Nat.le_of_succ_le_succ hfuel))
      rw [dropBlank_append_line, hdot, List.cons_append]

theorem dropGap_append {comment : Bool} {c : Char} (h : dropGap comment cs = c :: rest)
    (more : List Char) : dropGap comment (cs ++ more) = c :: (rest ++ more) := by
  induction cs generalizing comment with
  | nil => cases comment <;> cases h
  | cons d cs ih =>
    cases comment with
    | true =>
      rw [List.cons_append, dropGap]
      rw [dropGap] at h
      split
      case isTrue hd => exact ih (by rwa [if_pos hd] at h)
      case isFalse hd =>
        rw [if_neg hd] at h
        split
        case isTrue hplain => exact ih (by rwa [if_pos hplain] at h)
        case isFalse hplain =>
          rw [if_neg hplain] at h
          cases h
          rfl
    | false =>
      rw [List.cons_append, dropGap]
      rw [dropGap] at h
      split
      case isTrue hd => exact ih (by rwa [if_pos hd] at h)
      case isFalse hd =>
        rw [if_neg hd] at h
        split
        case isTrue hcomment => exact ih (by rwa [if_pos hcomment] at h)
        case isFalse hcomment =>
          rw [if_neg hcomment] at h
          cases h
          rfl

theorem value?_append_entries?_append (fuel : Nat) :
    (∀ {fuel' : Nat} {cs rest : List Char} {v : Value}, value? fuel cs = some (v, rest) →
      fuel ≤ fuel' → value? fuel' (cs ++ '\n' :: others) = some (v, rest ++ '\n' :: others)) ∧
    ∀ {fuel' : Nat} {cs rest : List Char} {entries : List (Path × Value)},
      entries? fuel cs = some (entries, rest) → fuel ≤ fuel' →
        entries? fuel' (cs ++ '\n' :: others) = some (entries, rest ++ '\n' :: others) := by
  induction fuel with
  | zero => exact ⟨fun h => by simp [value?] at h, fun h => by simp [entries?] at h⟩
  | succ fuel ih =>
    obtain ⟨ihValue, ihEntries⟩ := ih
    constructor
    · intro fuel' cs rest v h hfuel
      obtain ⟨fuel', rfl⟩ := Nat.exists_eq_add_one_of_ne_zero (Nat.ne_zero_of_lt hfuel)
      refine value?_succ_iff.mpr ?_
      cases value?_succ_iff.mp h with
      | string h => exact .string (stringAt_append others h)
      | emptyArray h => exact .emptyArray (dropGap_append h _)
      | emptyTable h =>
        rw [List.cons_append]
        exact .emptyTable (by rw [dropBlank_append_line, h, List.cons_append])
      | table hopen h =>
        have hentries := ihEntries h (Nat.le_of_succ_le_succ hfuel)
        rw [← dropBlank_append_line] at hentries
        rw [List.cons_append]
        refine .table ?_ hentries
        rw [dropBlank_append_line]
        exact head?_append_line others (by decide) hopen
      | @integer c cs n hc hn =>
        have hend : isNumberChar '\n' = false := by decide
        rw [← takeWhile_append_line others hend, List.cons_append] at hn
        rw [← dropWhile_append_line others hend, List.cons_append]
        exact .integer hc hn
    · intro fuel' cs rest entries h hfuel
      obtain ⟨fuel', rfl⟩ := Nat.exists_eq_add_one_of_ne_zero (Nat.ne_zero_of_lt hfuel)
      have hle := Nat.le_of_succ_le_succ hfuel
      refine entries?_succ_iff.mpr ?_
      cases entries?_succ_iff.mp h with
      | last hkey hvalue hclose =>
        have hvalue' := ihValue hvalue hle
        rw [← dropBlank_append_line] at hvalue'
        refine .last (key?_append others hkey hle) hvalue' ?_
        rw [dropBlank_append_line, hclose, List.cons_append]
      | comma hkey hvalue hcomma hothers =>
        have hvalue' := ihValue hvalue hle
        rw [← dropBlank_append_line] at hvalue'
        refine .comma (key?_append others hkey hle) hvalue' ?_ (ihEntries hothers hle)
        rw [dropBlank_append_line, hcomma, List.cons_append]

/-- A value is read with further lines behind it as it is read alone. -/
theorem value?_append {v : Value} (h : value? fuel cs = some (v, rest)) (hfuel : fuel ≤ fuel') :
    value? fuel' (cs ++ '\n' :: others) = some (v, rest ++ '\n' :: others) :=
  (value?_append_entries?_append others fuel).1 h hfuel

end Append

/-! ## Lines -/

section Lines

variable {others line : List Char} {key : String} {fuel : Nat}

theorem lineEnd?_append_line (hline : '\n' ∉ line) :
    lineEnd? (line ++ '\n' :: others) = if line = [] then some others else none := by
  cases line with
  | nil => rfl
  | cons c line =>
    have hc : c ≠ '\n' := (List.ne_of_not_mem_cons hline).symm
    simp [lineEnd?, hc]

/-- What is left of a line is passed over up to its end, or it is too much. -/
theorem afterLine?_append_line (hline : '\n' ∉ line) (others : List Char) :
    afterLine? (line ++ '\n' :: others) = none ∨
      afterLine? (line ++ '\n' :: others) = some others := by
  have hleft : '\n' ∉ dropBlank line := fun hmem => hline ((List.dropWhile_suffix isBlank).mem hmem)
  rw [afterLine?, dropBlank_append_line]
  cases hblank : dropBlank line with
  | nil => exact .inr rfl
  | cons c left =>
    rw [hblank] at hleft
    have hcomment : '\n' ∉ left.dropWhile isPlain := fun hmem =>
      hleft (List.mem_cons_of_mem c ((List.dropWhile_suffix _).mem hmem))
    simp only [List.cons_append]
    split
    · rw [dropWhile_append_line others (by decide), lineEnd?_append_line hcomment]
      split
      · exact .inr rfl
      · exact .inl rfl
    · rw [← List.cons_append, lineEnd?_append_line hleft]
      exact .inl (if_neg (List.cons_ne_nil c left))

/-- The line of a key can be read alone. -/
theorem exists_value?_of_readLines (hkey : IsBareKey key) {d : Document}
    (h : (readLines (fuel + 2) d [] (key.toList ++ ' ' :: '=' :: ' ' :: line)).isSome = true) :
    ∃ v left, value? (fuel + 1) (dropBlank line) = some (v, left) := by
  rw [readLines_key hkey] at h
  cases hvalue : value? (fuel + 1) (dropBlank line) with
  | none => simp [hvalue] at h
  | some r => exact ⟨r.1, r.2, rfl⟩

/-- A value ends on its line where no three quotes stand in a row, and where the line can be read
alone. -/
theorem value?_line (hkey : IsBareKey key) (hline : '\n' ∉ line)
    (hothers : (dropGap false others).head? ≠ some ']')
    (hstays : ¬ HasBlock line ∨ ∃ n ≤ fuel, (readLines (n + 2) .empty []
      (key.toList ++ ' ' :: '=' :: ' ' :: line)).isSome = true) {v : Value}
    (h : value? (fuel + 1) (dropBlank (line ++ '\n' :: others)) = some (v, rest)) :
    ∃ left, rest = left ++ '\n' :: others ∧ '\n' ∉ left := by
  obtain hblock | ⟨n, hn, halone⟩ := hstays
  · have hcs : OnLine others (line ++ '\n' :: others) := ⟨line, rfl, hline, hblock⟩
    obtain ⟨left, hleft, hend, -⟩ :=
      value?_onLine hothers h ((steps_onLine hothers).dropBlank _ hcs)
    exact ⟨left, hleft, hend⟩
  · obtain ⟨v', left, hvalue⟩ := exists_value?_of_readLines hkey halone
    rw [dropBlank_append_line, value?_append others hvalue (Nat.succ_le_succ hn)] at h
    cases h
    have hsuffix := (value?_suffix hvalue).trans (List.dropWhile_suffix isBlank)
    exact ⟨left, rfl, fun hmem => hline (hsuffix.mem hmem)⟩

/-- Such a line is read up to its end, or the text is no document. -/
theorem readLines_key_line (hkey : IsBareKey key) (hline : '\n' ∉ line)
    (hothers : (dropGap false others).head? ≠ some ']')
    (hstays : ¬ HasBlock line ∨ ∃ n ≤ fuel, (readLines (n + 2) .empty []
      (key.toList ++ ' ' :: '=' :: ' ' :: line)).isSome = true) (d : Document) :
    readLines (fuel + 2) d [] (key.toList ++ ' ' :: '=' :: ' ' :: (line ++ '\n' :: others)) = none ∨
      ∃ v, readLines (fuel + 2) d [] (key.toList ++ ' ' :: '=' :: ' ' :: (line ++ '\n' :: others)) =
        (d.define [] [key] v).bind fun d => readLines (fuel + 1) d [] others := by
  rw [readLines_key hkey]
  cases hvalue : value? (fuel + 1) (dropBlank (line ++ '\n' :: others)) with
  | none => exact .inl rfl
  | some r =>
    obtain ⟨v, rest⟩ := r
    obtain ⟨left, rfl, hleft⟩ := value?_line hkey hline hothers hstays hvalue
    simp only [Option.bind_some]
    obtain hnone | hsome := afterLine?_append_line hleft others
    · exact .inl (by rw [hnone, Option.bind_none])
    · exact .inr ⟨v, by rw [hsome, Option.bind_some]⟩

end Lines

end Positioning.Toml
