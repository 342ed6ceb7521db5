import Mathlib.Tactic.ByContra
import Positioning.Proofs.Toml.Values

/-!
# The forms of keys and values

Reading a key, a value or the entries in braces goes through one of a few forms at each step. Each
form is a constructor here, so that what holds of all that is read is shown form by form.

## Main definitions

- `Toml.StringAt` lists the forms of strings, `Toml.PartAt` and `Toml.KeyAt` those of keys.
- `Toml.ValueAt` and `Toml.EntriesAt` list the forms of values and of entries in braces.

## Main statements

- `Toml.value?_succ_iff` and `Toml.entries?_succ_iff`: what is read has one of the forms.
-/

namespace Positioning.Toml

variable {cs rest : List Char}

/-! ## Strings and keys -/

theorem IsQuote.ne_lineEnd {quote : Char} {escapes : Bool} (h : IsQuote quote escapes) :
    quote ≠ '\n' := by
  cases h <;> decide

theorem pushFirst_eq_some_iff {c : Char} {r : Option (List Char × List Char)}
    {body : List Char} :
    pushFirst c r = some (body, rest) ↔ ∃ body', r = some (body', rest) ∧ body = c :: body' := by
  constructor
  · intro h
    obtain ⟨⟨body', rest'⟩, hr, heq⟩ := Option.map_eq_some_iff.mp h
    cases heq
    exact ⟨body', hr, rfl⟩
  · rintro ⟨body', rfl, rfl⟩
    rfl

theorem splitLine_eq_some {quote : Char} {escapes : Bool} {body : List Char}
    (h : splitLine quote escapes cs = some (body, rest)) : cs = body ++ quote :: rest := by
  fun_induction splitLine quote escapes cs generalizing body with
  | case1 => cases h
  | case2 => cases h; rfl
  | case3 => cases h
  | case4 c _ _ e cs ih =>
    obtain ⟨body', hrest, rfl⟩ := pushFirst_eq_some_iff.mp h
    obtain ⟨body'', hsplit, rfl⟩ := pushFirst_eq_some_iff.mp hrest
    rw [ih hsplit, List.cons_append, List.cons_append]
  | case5 c cs _ _ ih =>
    obtain ⟨body', hsplit, rfl⟩ := pushFirst_eq_some_iff.mp h
    rw [ih hsplit, List.cons_append]

theorem afterQuote?_eq_some_iff {quote : Char} {escapes : Bool} {s : String} :
    afterQuote? quote escapes cs = some (s, rest) ↔
      ∃ body, splitLine quote escapes cs = some (body, rest) ∧
        content? escapes false body = some s := by
  simp [afterQuote?, Option.bind_eq_some_iff]

theorem afterQuotes?_eq_some_iff {quote : Char} {escapes : Bool} {s : String} :
    afterQuotes? quote escapes cs = some (s, rest) ↔
      ∃ body, splitLines quote escapes (dropFirstLineEnd cs) = some (body, rest) ∧
        content? escapes true body = some s := by
  simp [afterQuotes?, Option.bind_eq_some_iff]

/-- A string of either form, where the text begins with one. -/
inductive StringAt : List Char → String → List Char → Prop where
  | line {quote : Char} {escapes : Bool} {cs rest : List Char} {s : String}
      (hquote : IsQuote quote escapes) (hone : ∀ cs', cs ≠ quote :: quote :: cs')
      (h : afterQuote? quote escapes cs = some (s, rest)) : StringAt (quote :: cs) s rest
  | block {quote : Char} {escapes : Bool} {cs rest : List Char} {s : String}
      (hquote : IsQuote quote escapes) (h : afterQuotes? quote escapes cs = some (s, rest)) :
      StringAt (quote :: quote :: quote :: cs) s rest

theorem quoted?_iff {s : String} : quoted? cs = some (s, rest) ↔ StringAt cs s rest := by
  constructor
  · intro h
    rw [quoted?.eq_def] at h
    split at h
    case h_1 => exact .block .double h
    case h_2 => exact .block .single h
    case h_3 hne => exact .line .double (fun cs' heq => hne cs' (by rw [heq])) h
    case h_4 hne => exact .line .single (fun cs' heq => hne cs' (by rw [heq])) h
    case h_5 => cases h
  · intro h
    cases h with
    | line hquote hone h => rw [quoted?_line hquote hone, h]
    | block hquote h => cases hquote <;> exact h

/-- A key without dots. -/
inductive PartAt : List Char → String → List Char → Prop where
  | quoted {quote : Char} {escapes : Bool} {cs rest : List Char} {part : String}
      (hquote : IsQuote quote escapes) (h : afterQuote? quote escapes cs = some (part, rest)) :
      PartAt (quote :: cs) part rest
  | bare {c : Char} {cs : List Char} (hc : isBare c = true) :
      PartAt (c :: cs) (String.ofList ((c :: cs).takeWhile isBare)) ((c :: cs).dropWhile isBare)

theorem simpleKey?_iff {part : String} :
    simpleKey? cs = some (part, rest) ↔ PartAt cs part rest := by
  rw [simpleKey?.eq_def]
  constructor
  · intro h
    split at h
    case h_1 => exact .quoted .double h
    case h_2 => exact .quoted .single h
    case h_3 =>
      dsimp only at h
      split at h
      case isTrue => cases h
      case isFalse hne =>
        cases h
        cases cs with
        | nil => exact absurd rfl hne
        | cons c cs =>
          refine .bare ?_
          by_contra hc
          exact hne (by rw [List.takeWhile_cons_of_neg hc]; rfl)
  · intro h
    cases h with
    | quoted hquote h => cases hquote <;> exact h
    | @bare c cs hc =>
      split
      case h_1 heq => cases heq; cases hc
      case h_2 heq => cases heq; cases hc
      case h_3 => simp [hc]

/-- A key of one or more parts. The number is the fuel for the parts behind the first. -/
inductive KeyAt (fuel : Nat) : List Char → List String → List Char → Prop where
  | last {cs rest : List Char} {part : String} (h : simpleKey? (dropBlank cs) = some (part, rest))
      (hend : (dropBlank rest).head? ≠ some '.') : KeyAt fuel cs [part] (dropBlank rest)
  | dot {cs rest rest' rest'' : List Char} {part : String} {parts : List String}
      (h : simpleKey? (dropBlank cs) = some (part, rest)) (hdot : dropBlank rest = '.' :: rest')
      (hparts : key? fuel rest' = some (parts, rest'')) : KeyAt fuel cs (part :: parts) rest''

theorem key?_succ_iff {fuel : Nat} {key : List String} :
    key? (fuel + 1) cs = some (key, rest) ↔ KeyAt fuel cs key rest := by
  rw [key?]
  constructor
  · intro h
    split at h
    case h_1 => cases h
    case h_2 part rest' hpart =>
      split at h
      case h_1 rest'' hdot =>
        obtain ⟨⟨parts, rest₁⟩, hparts, heq⟩ := Option.map_eq_some_iff.mp h
        cases heq
        exact .dot hpart hdot hparts
      case h_2 hend =>
        cases h
        refine .last hpart fun hdot => ?_
        obtain ⟨rest₁, heq⟩ := List.head?_eq_some_iff.mp hdot
        exact hend rest₁ heq
  · intro h
    cases h with
    | last hpart hend =>
      simp only [hpart]
      split
      case h_1 heq => exact absurd (by rw [heq]; rfl) hend
      case h_2 => rfl
    | dot hpart hdot hparts => simp [hpart, hdot, hparts]

/-! ## Values -/

/-- The forms of a value. The number is the fuel for the entries of a table. -/
inductive ValueAt (fuel : Nat) : List Char → Value → List Char → Prop where
  | string {cs rest : List Char} {s : String} (h : StringAt cs s rest) :
      ValueAt fuel cs (.string s) rest
  | emptyArray {cs rest : List Char} (h : dropGap false cs = ']' :: rest) :
      ValueAt fuel ('[' :: cs) .emptyArray rest
  | emptyTable {cs rest : List Char} (h : dropBlank cs = '\x7d' :: rest) :
      ValueAt fuel ('\x7b' :: cs) (.table []) rest
  | table {cs rest : List Char} {entries : List (Path × Value)}
      (hopen : (dropBlank cs).head? ≠ some '\x7d')
      (h : entries? fuel (dropBlank cs) = some (entries, rest)) :
      ValueAt fuel ('\x7b' :: cs) (.table entries) rest
  | integer {c : Char} {cs : List Char} {n : Int} (hc : isNumberChar c = true)
      (h : integer? ((c :: cs).takeWhile isNumberChar) = some n) :
      ValueAt fuel (c :: cs) (.integer n) ((c :: cs).dropWhile isNumberChar)

theorem integer?_nil : integer? [] = none := by
  decide

/-- Where the text begins with a character of numbers, an integer is read. -/
theorem value?_number {c : Char} (hc : isNumberChar c = true) (fuel : Nat) (cs : List Char) :
    value? (fuel + 1) (c :: cs) =
      (integer? ((c :: cs).takeWhile isNumberChar)).map fun n =>
        (.integer n, (c :: cs).dropWhile isNumberChar) := by
  have hquote : c ≠ '"' := by rintro rfl; cases hc
  have hapostrophe : c ≠ '\'' := by rintro rfl; cases hc
  have hbracket : c ≠ '[' := by rintro rfl; cases hc
  have hbrace : c ≠ '\x7b' := by rintro rfl; cases hc
  simp [value?, hquote, hapostrophe, hbracket, hbrace]

theorem value?_succ_iff {fuel : Nat} {v : Value} :
    value? (fuel + 1) cs = some (v, rest) ↔ ValueAt fuel cs v rest := by
  constructor
  · intro h
    cases cs with
    | nil => simp [value?] at h
    | cons c cs =>
      -- A string is tried first, then an array, a table in braces and a number.
      rw [value?] at h
      split at h
      case isTrue =>
        obtain ⟨⟨s, rest'⟩, hs, heq⟩ := Option.map_eq_some_iff.mp h
        cases heq
        exact .string (quoted?_iff.mp hs)
      case isFalse hquote =>
        split at h
        case isTrue hc =>
          subst hc
          split at h
          case h_1 hgap =>
            cases h
            exact .emptyArray hgap
          case h_2 => cases h
        case isFalse =>
          split at h
          case isTrue hc =>
            subst hc
            split at h
            case h_1 hblank =>
              cases h
              exact .emptyTable hblank
            case h_2 hopen =>
              obtain ⟨⟨entries, rest'⟩, hentries, heq⟩ := Option.map_eq_some_iff.mp h
              cases heq
              refine .table (fun hclose => ?_) hentries
              obtain ⟨rest₁, heq⟩ := List.head?_eq_some_iff.mp hclose
              exact hopen rest₁ heq
          case isFalse =>
            obtain ⟨n, hn, heq⟩ := Option.map_eq_some_iff.mp h
            cases heq
            refine .integer ?_ hn
            by_contra hc
            rw [List.takeWhile_cons_of_neg hc, integer?_nil] at hn
            cases hn
  · intro h
    cases h with
    | string h =>
      have hquoted := quoted?_iff.mpr h
      cases h with
      | line hquote _ _ => cases hquote <;> simp [value?, hquoted]
      | block hquote _ => cases hquote <;> simp [value?, hquoted]
    | emptyArray h => simp [value?, h]
    | emptyTable h => simp [value?, h]
    | table hopen h =>
      rw [value?, if_neg (by decide), if_neg (by decide), if_pos rfl]
      split
      case h_1 heq => exact absurd (by rw [heq]; rfl) hopen
      case h_2 => rw [h, Option.map_some]
    | @integer c cs n hc h => rw [value?_number hc, h, Option.map_some]

/-- The entries of a table in braces. The number is the fuel for keys, values and other entries. -/
inductive EntriesAt (fuel : Nat) : List Char → List (Path × Value) → List Char → Prop where
  | last {cs rest rest' rest'' : List Char} {key : Path} {v : Value}
      (hkey : key? fuel cs = some (key, '=' :: rest))
      (hvalue : value? fuel (dropBlank rest) = some (v, rest'))
      (hclose : dropBlank rest' = '\x7d' :: rest'') : EntriesAt fuel cs [(key, v)] rest''
  | comma {cs rest rest' rest'' others : List Char} {key : Path} {v : Value}
      {entries : List (Path × Value)} (hkey : key? fuel cs = some (key, '=' :: rest))
      (hvalue : value? fuel (dropBlank rest) = some (v, rest'))
      (hcomma : dropBlank rest' = ',' :: others)
      (hothers : entries? fuel others = some (entries, rest'')) :
      EntriesAt fuel cs ((key, v) :: entries) rest''

theorem entries?_succ_iff {fuel : Nat} {entries : List (Path × Value)} :
    entries? (fuel + 1) cs = some (entries, rest) ↔ EntriesAt fuel cs entries rest := by
  rw [entries?]
  constructor
  · intro h
    split at h
    case h_1 hkey =>
      split at h
      case h_1 hvalue =>
        split at h
        case h_1 hclose =>
          cases h
          exact .last hkey hvalue hclose
        case h_2 hcomma =>
          obtain ⟨⟨others, rest'⟩, hothers, heq⟩ := Option.map_eq_some_iff.mp h
          cases heq
          exact .comma hkey hvalue hcomma hothers
        case h_3 => cases h
      case h_2 => cases h
    case h_2 => cases h
  · intro h
    cases h with
    | last hkey hvalue hclose => simp [hkey, hvalue, hclose]
    | comma hkey hvalue hcomma hothers => simp [hkey, hvalue, hcomma, hothers]

end Positioning.Toml
